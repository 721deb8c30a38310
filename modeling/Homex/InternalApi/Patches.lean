import Homex.System.Runs

/-!
# Partial updates of an order

A PATCH to the internal API names some columns of an order, directly or through an
alias. `validate` completes the data as for a new order: a date and a time that are
not named are those of the moment, and the update writes them.
-/

namespace Homex

namespace InternalApi

open Relational Action Code Orders

/-- Django's parsers: a day, a time of day, and both. -/
structure DateParsers where
  parseDate : String → Option Int
  parseTime : String → Option Int
  parseDatetime : String → Option (Int × Int)

/-- `parse_scheduled_at` of a text that is not empty; a date alone is at nine. -/
def parseScheduledAt (parsers : DateParsers) (value : String) : Option (Int × Int) :=
  (parsers.parseDatetime value).or
    ((parsers.parseDate value).map fun date => (date, 9 * 3600000000))

/-- The texts of a payload that say when the order is. -/
structure ScheduleTexts where
  scheduledAt : Option String := none
  scheduledDate : Option String := none
  scheduledTime : Option String := none

/-- The payload with its texts parsed; an empty `scheduled_at` counts as none. -/
def OrderPayload.withTexts (parsers : DateParsers) (texts : ScheduleTexts)
    (data : OrderPayload) : OrderPayload :=
  { data with
      scheduledAt :=
        (texts.scheduledAt.filter fun value => value ≠ "").map (parseScheduledAt parsers)
      scheduledDate := texts.scheduledDate.map parsers.parseDate
      scheduledTime := texts.scheduledTime.map parsers.parseTime }

namespace ScheduleTexts

/-- The payload names the date of the order. -/
def NamesDate (texts : ScheduleTexts) : Prop :=
  texts.scheduledAt.isSome = true ∨ texts.scheduledDate.isSome = true

/-- The payload names the time of the order. -/
def NamesTime (texts : ScheduleTexts) : Prop :=
  texts.scheduledAt.isSome = true ∨ texts.scheduledTime.isSome = true

instance (texts : ScheduleTexts) : Decidable texts.NamesDate :=
  inferInstanceAs (Decidable (_ ∨ _))

instance (texts : ScheduleTexts) : Decidable texts.NamesTime :=
  inferInstanceAs (Decidable (_ ∨ _))

end ScheduleTexts

/-- The updated row `o'` with its total, and the columns that the payload names, put back
to those of `o`. -/
def OrderPayload.restore (texts : ScheduleTexts) (data : OrderPayload) (o o' : Order) : Order :=
  { o' with
      client := if data.client.isSome then o.client else o'.client
      master := if data.master.isSome then o.master else o'.master
      service := if data.service.isSome then o.service else o'.service
      status := if data.status.isSome then o.status else o'.status
      paymentType := if data.paymentType.isSome then o.paymentType else o'.paymentType
      serviceFee := if data.price.isSome then o.serviceFee else o'.serviceFee
      scheduledDate := if texts.NamesDate then o.scheduledDate else o'.scheduledDate
      scheduledTime := if texts.NamesTime then o.scheduledTime else o'.scheduledTime
      addressText :=
        if data.address.isSome ∨ data.addressText.isSome then o.addressText else o'.addressText
      lat := if data.lat.isSome then o.lat else o'.lat
      lng := if data.lng.isSome then o.lng else o'.lng
      note := if data.note.isSome then o.note else o'.note
      cancelReason :=
        if data.cancelledReason.isSome ∨ data.cancelReason.isSome then o.cancelReason
        else o'.cancelReason
      rejectedReason := if data.rejectedReason.isSome then o.rejectedReason else o'.rejectedReason
      totalAmount := o.totalAmount }

/-- The update leaves the columns alone that the payload does not name. -/
def OrderPayload.TouchesNamed (texts : ScheduleTexts) (data : OrderPayload) (o : Order)
    (db : DB) : Prop :=
  ∃ o', db.orders.find? o.id = some o' ∧ data.restore texts o o' = o

variable {ctx : Context} {db db' : DB} {parsers : DateParsers} {texts : ScheduleTexts}
  {data : OrderPayload} {o o' : Order} {date time : Int}

namespace InternalOrderWriteSerializer

theorem ite_isSome_getD {α : Type} (a? : Option α) (a : α) :
    (if a?.isSome = true then a else a?.getD a) = a := by
  cases a? with
  | none => rfl
  | some _ => rfl

theorem ite_isSome_or {α : Type} (a? b? : Option α) :
    (if a?.isSome = true then b? else a?.or b?) = b? := by
  cases a? with
  | none => rfl
  | some _ => rfl

theorem ite_alias_getD {α : Type} (a? b? : Option α) (a : α) :
    (if a?.isSome = true ∨ b?.isSome = true then a else (b?.or a?).getD a) = a := by
  cases a? with
  | none =>
      cases b? with
      | none => rfl
      | some _ => rfl
  | some _ => simp

/-- Only the date and the time are left to compare. -/
theorem restore_updated :
    data.restore texts o (updated (attrsOf data date time) o) =
      { o with
          scheduledDate := if texts.NamesDate then o.scheduledDate else date
          scheduledTime := if texts.NamesTime then o.scheduledTime else time } := by
  simp only [OrderPayload.restore, updated, setFields, attrsOf, Order.recalculateTotal,
    ite_isSome_getD, ite_isSome_or, ite_alias_getD]
  cases data.status with
  | none => simp
  | some _ => simp

/-- A payload that does not name them has the date and the time of the moment. -/
theorem schedule_default {s : DB}
    (h : schedule ctx (data.withTexts parsers texts) db = (.ok (date, time), s)) :
    (¬texts.NamesDate → date = ctx.localDate) ∧ (¬texts.NamesTime → time = ctx.localTime) := by
  cases hat : texts.scheduledAt with
  | some value =>
      exact ⟨fun hdate => absurd (Or.inl (by rw [hat]; rfl)) hdate,
        fun htime => absurd (Or.inl (by rw [hat]; rfl)) htime⟩
  | none =>
      have hnone : (data.withTexts parsers texts).scheduledAt = none := by
        simp [OrderPayload.withTexts, hat]
      simp only [schedule, hnone, bind_eq_ok, fetch_eq_ok, pure_eq_ok, Prod.mk.injEq] at h
      obtain ⟨date', _, ⟨hdate, rfl⟩, time', _, ⟨htime, rfl⟩, ⟨rfl, rfl⟩, -⟩ := h
      refine ⟨fun hnames => ?_, fun hnames => ?_⟩
      · have hdateNone : texts.scheduledDate = none :=
          Option.not_isSome_iff_eq_none.mp fun hsome => hnames (Or.inr hsome)
        simpa [OrderPayload.withTexts, hdateNone, eq_comm] using hdate
      · have htimeNone : texts.scheduledTime = none :=
          Option.not_isSome_iff_eq_none.mp fun hsome => hnames (Or.inr hsome)
        simpa [OrderPayload.withTexts, htimeNone, eq_comm] using htime

/-- What an accepted update stores. -/
theorem update_ok {pk : Uuid} {payload : OrderPayload}
    (h : update ctx pk payload db = (.ok o', db')) :
    ∃ o date time s s', db.orders.find? pk = some o ∧
      schedule ctx payload s = (.ok (date, time), s') ∧
      o' = updated (attrsOf payload date time) o ∧
      db'.orders = db.orders.save o' := by
  simp only [update, saveOrder, bind_eq_ok, require_eq_ok, modify_eq_ok, pure_eq_ok] at h
  obtain ⟨o, _, hget, attrs, _, hvalid, _, _, ⟨-, rfl⟩, _, _, rfl, rfl, rfl⟩ := h
  obtain ⟨hfind, -, rfl⟩ := getOrder_ok hget
  obtain ⟨-, -, rfl⟩ := internalValidate_ok hvalid
  simp only [validate, bind_eq_ok, require_eq_ok, pure_eq_ok] at hvalid
  obtain ⟨_, _, -, _, _, -, _, s, -, ⟨date, time⟩, s', hschedule, _, _, -, rfl, -⟩ := hvalid
  exact ⟨o, date, time, s, s', hfind, hschedule, rfl, rfl⟩

/-- A row is another with its own date and time only if these are the same. -/
theorem rescheduled_eq_iff :
    { o with scheduledDate := date, scheduledTime := time } = o ↔
      date = o.scheduledDate ∧ time = o.scheduledTime := by
  constructor
  · intro h
    exact ⟨congrArg Order.scheduledDate h, congrArg Order.scheduledTime h⟩
  · rintro ⟨rfl, rfl⟩
    rfl

theorem ite_named_eq_iff {named : Prop} [Decidable named] {column value moment : Int}
    (h : ¬named → value = moment) :
    (if named then column else value) = column ↔ named ∨ column = moment := by
  by_cases hnamed : named
  · simp [hnamed]
  · simp [hnamed, h hnamed, eq_comm]

/-- A partial update leaves the other columns alone when it names the date and the time of
the order, or these are those of the moment, and only then. -/
theorem touches_named (h : update ctx o.id (data.withTexts parsers texts) db = (.ok o', db'))
    (hfind : db.orders.find? o.id = some o) :
    data.TouchesNamed texts o db' ↔
      (texts.NamesDate ∨ o.scheduledDate = ctx.localDate) ∧
        (texts.NamesTime ∨ o.scheduledTime = ctx.localTime) := by
  obtain ⟨o₁, date, time, s, s', hfind₁, hschedule, rfl, hdb⟩ := update_ok h
  obtain rfl : o = o₁ := Option.some.inj (hfind.symm.trans hfind₁)
  have hstored : db'.orders.find? o.id = some (updated (attrsOf data date time) o) := by
    rw [hdb]
    exact (find?_of_save (updated (attrsOf data date time) o) hfind rfl o.id).trans (if_pos rfl)
  obtain ⟨hdate, htime⟩ := schedule_default hschedule
  unfold OrderPayload.TouchesNamed
  rw [hstored]
  simp only [Option.some.injEq, exists_eq_left', restore_updated, rescheduled_eq_iff]
  rw [ite_named_eq_iff hdate, ite_named_eq_iff htime]

end InternalOrderWriteSerializer

end InternalApi

namespace Sample

open Relational InternalApi Orders

/-- An order for day 19800, at noon. -/
def scheduledOrder : Order where
  id := 10
  client := 1
  service := 4
  addressText := "Chilonzor"
  lat := 0
  lng := 0
  scheduledDate := 19800
  scheduledTime := 12 * 3600000000

def scheduling : DB := { db with orders := ⟨[scheduledOrder], by decide⟩ }

/-- Day 19782, a quarter past eight. -/
def morning : Context where
  now := 20
  localDate := 19782
  localTime := 8 * 3600000000 + 900000000
  uuid _ := 20

/-- The moment the order is for. -/
def noon : Context := { morning with localDate := 19800, localTime := 12 * 3600000000 }

/-- No text is a date here. -/
def noParsers : DateParsers := ⟨fun _ => none, fun _ => none, fun _ => none⟩

/-- The status alone. -/
def statusOnly : InternalApi.OrderPayload := { status := some .accepted }

def patchedAt (ctx : Context) : Except Error Order × DB :=
  InternalOrderWriteSerializer.update ctx scheduledOrder.id (statusOnly.withTexts noParsers {})
    scheduling

end Sample

open Relational Orders InternalApi InternalOrderWriteSerializer Sample in
theorem InternalApi.InternalOrderWriteSerializer.touches_named_sample :
    (∃ o' db', patchedAt noon = (.ok o', db')) ∧
      statusOnly.TouchesNamed {} scheduledOrder (patchedAt noon).2 := by
  have hpatched : update noon scheduledOrder.id (statusOnly.withTexts noParsers {}) scheduling =
      (.ok _, (patchedAt noon).2) := rfl
  exact ⟨⟨_, _, rfl⟩, (touches_named hpatched rfl).mpr ⟨Or.inr rfl, Or.inr rfl⟩⟩

open Relational Orders InternalApi InternalOrderWriteSerializer Sample in
/-- A patch of the status moves the order to the moment. -/
theorem InternalApi.InternalOrderWriteSerializer.status_reschedules :
    ((patchedAt morning).2.orders.find? 10).map (fun o => (o.status, o.scheduledDate)) =
        some (.accepted, 19782) ∧
      ¬∀ (ctx : Context) (parsers : DateParsers) (texts : ScheduleTexts)
        (data : InternalApi.OrderPayload) (o o' : Order) (db db' : DB),
        db.orders.find? o.id = some o →
        update ctx o.id (data.withTexts parsers texts) db = (.ok o', db') →
        data.TouchesNamed texts o db' := by
  have hrow : ((patchedAt morning).2.orders.find? 10).map
      (fun o => (o.status, o.scheduledDate)) = some (.accepted, 19782) := by decide
  refine ⟨hrow, fun h => ?_⟩
  obtain ⟨o', hfind, hrestored⟩ :=
    h morning noParsers {} statusOnly scheduledOrder _ scheduling (patchedAt morning).2 rfl rfl
  rw [show (patchedAt morning).2.orders.find? 10 = some o' from hfind, Option.map_some,
    Option.some.injEq, Prod.mk.injEq] at hrow
  have hsame := congrArg Order.scheduledDate hrestored
  simp [OrderPayload.restore, ScheduleTexts.NamesDate, hrow.2, scheduledOrder] at hsame

end Homex
