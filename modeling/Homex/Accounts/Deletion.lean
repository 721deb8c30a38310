import Homex.Common.Schema
import Homex.Common.Store

/-!
# Deleting an account

`DeleteAccountView` and the detail views of the staff delete a client or a master with
`delete`, and leave it to the foreign keys what follows. This is what follows: the rows that
go with a client (`OwnedByClient`) or with a master (`OwnedByMaster`), and when the deletion
is refused. A refusal is a `ProtectedError`, which no view catches.

A client whose order was ever offered to Payme cannot be deleted, and neither can a master
who was ever assigned to an order that is still there, however it ended.
-/

namespace Homex

namespace Schema

open Relational Relational.Table

namespace Row

/-- The row has this key in the column. -/
def Of (column : Column) (pk : Uuid) (r : Row) : Prop := r.column column = some pk

/-- The row names, in the column, a row of the model which satisfies a condition. -/
def Names (t : Table Row) (column : Column) (model : Model) (P : Row → Prop) (r : Row) : Prop :=
  ∃ r' ∈ t.rows, r'.model = model ∧ r.Of column r'.id ∧ P r'

instance (column : Column) (pk : Uuid) : DecidablePred (Of column pk) := fun r =>
  inferInstanceAs (Decidable (r.column column = some pk))

instance (t : Table Row) (column : Column) (model : Model) (P : Row → Prop) [DecidablePred P] :
    DecidablePred (Names t column model P) := fun _ =>
  inferInstanceAs (Decidable (∃ r' ∈ t.rows, _ ∧ _ ∧ _))

/-- The review of an order of the client, or by the client. -/
def ReviewOf (t : Table Row) (c : Uuid) (r : Row) : Prop :=
  r.Names t .order .order (Of .client c) ∨ r.Of .client c

end Row

/-- The rows that go with a client. -/
def OwnedByClient (t : Table Row) (c : Uuid) (r : Row) : Prop :=
  match r.model with
  | .client => r.id = c
  | .fcmDevice | .clientAddress | .order | .notification | .supportChat | .marketFavorite
  | .marketOrder => r.Of .client c
  | .clientDevice => r.Of .client c ∨ r.Names t .address .clientAddress (Row.Of .client c)
  | .orderMaster | .orderInventoryUsage | .orderTracking | .dashboardOrderAssistant =>
      r.Names t .order .order (Row.Of .client c)
  | .review => r.ReviewOf t c
  | .reviewPhoto => r.Names t .review .review (Row.ReviewOf t c)
  | .supportMessage => r.Names t .chat .supportChat (Row.Of .client c) ∨ r.Of .client c
  | _ => False

/-- The rows that go with a master. -/
def OwnedByMaster (t : Table Row) (m : Uuid) (r : Row) : Prop :=
  match r.model with
  | .master => r.id = m
  | .fcmDevice | .masterCertificate | .masterDocument | .review | .masterWallet
  | .walletTransaction | .withdrawRequest | .masterExpense | .masterInventory | .notification
  | .supportChat => r.Of .master m
  | .reviewPhoto => r.Names t .review .review (Row.Of .master m)
  | .supportMessage => r.Names t .chat .supportChat (Row.Of .master m) ∨ r.Of .master m
  | _ => False

section Gone

variable {t : Table Row} {root : Key} {r : Row} {model target owner : Model} {column : Column}
  {pk : Uuid}

/-- A row other than the one deleted goes if one of its cascading keys leads to one. -/
theorem key_mem_gone_iff_leads (hr : r ∈ t.rows) (hmodel : r.model = model)
    (hne : model ≠ root.1) :
    key r ∈ t.gone root ↔ ∃ fk ∈ cascadeKeys model, LeadsToGone t root r fk := by
  rw [key_mem_gone_iff_cascadeKeys hr, hmodel, or_iff_right]
  rintro rfl
  exact hne hmodel.symm

/-- A key to a model that cannot lose rows leads to no row that goes. -/
theorem not_leadsToGone {fk : ForeignKey} (hmodel : fk.target ∉ cascadeModels root.1) :
    ¬LeadsToGone t root r fk :=
  fun ⟨_, _, hgone⟩ => hmodel (model_of_mem_gone hgone)

/-- A key to a model of which it is known which rows go. -/
theorem leadsToGone_iff_names {fk : ForeignKey} {P : Row → Prop} (hne : fk.target ≠ root.1)
    (hP : ∀ r' ∈ t.rows, r'.model = fk.target → (key r' ∈ t.gone root ↔ P r')) :
    LeadsToGone t root r fk ↔ r.Names t fk.column fk.target P := by
  constructor
  · rintro ⟨pk', hcolumn, hgone⟩
    rcases mem_gone_cases hgone with h | ⟨r', hr', hkey, -⟩
    · exact absurd (congrArg Prod.fst h) hne
    · obtain ⟨hmodel, rfl⟩ := Prod.mk.inj hkey
      exact ⟨r', hr', hmodel, hcolumn, (hP r' hr' hmodel).mp (hkey ▸ hgone)⟩
  · rintro ⟨r', hr', hmodel, hcolumn, h⟩
    refine ⟨r'.id, hcolumn, ?_⟩
    have hgone := (hP r' hr' hmodel).mpr h
    rwa [key_row, hmodel] at hgone

/-- No row of the model goes along with another one of it. -/
def Heads (owner : Model) : Prop := ∀ fk ∈ cascadeKeys owner, fk.target ∉ cascadeModels owner

instance (owner : Model) : Decidable (Heads owner) :=
  inferInstanceAs (Decidable (∀ fk ∈ cascadeKeys owner, fk.target ∉ cascadeModels owner))

theorem owner_mem_gone {o : Uuid} (howner : Heads owner) :
    (owner, pk) ∈ t.gone (owner, o) ↔ pk = o := by
  constructor
  · intro h
    rcases mem_gone_cases h with h | ⟨r, hr, hkey, -⟩
    · exact congrArg Prod.snd h
    · obtain ⟨rfl, rfl⟩ := Prod.mk.inj hkey
      rcases (key_mem_gone_iff_cascadeKeys hr).mp (hkey ▸ h) with h | ⟨fk, hfk, h⟩
      · exact congrArg Prod.snd h
      · exact absurd h (not_leadsToGone (howner fk hfk))
  · rintro rfl
    exact self_mem_gone

theorem leadsToGone_owner {o : Uuid} {action : OnDelete} (howner : Heads owner) :
    LeadsToGone t (owner, o) r ⟨model, column, owner, action⟩ ↔ r.Of column o := by
  simp only [LeadsToGone, owner_mem_gone howner, exists_eq_right, Row.Of]

/-- A model of whose cascading keys only the one to the owner can lead to a row that goes. -/
theorem gone_of_owner {o : Uuid} (howner : Heads owner) (hne : model ≠ owner)
    (hmem : ⟨model, column, owner, .cascade⟩ ∈ cascadeKeys model)
    (hothers : ∀ fk ∈ cascadeKeys model,
      fk = ⟨model, column, owner, .cascade⟩ ∨ fk.target ∉ cascadeModels owner)
    (hr : r ∈ t.rows) (hmodel : r.model = model) :
    key r ∈ t.gone (owner, o) ↔ r.Of column o := by
  rw [key_mem_gone_iff_leads hr hmodel hne]
  constructor
  · rintro ⟨fk, hfk, h⟩
    rcases hothers fk hfk with rfl | htarget
    · exact (leadsToGone_owner howner).mp h
    · exact absurd h (not_leadsToGone htarget)
  · exact fun h => ⟨_, hmem, (leadsToGone_owner howner).mpr h⟩

/-- A model of whose cascading keys only one can lead to a row that goes. -/
theorem gone_of_names {o : Uuid} {P : Row → Prop} (hne : model ≠ owner) (hne' : target ≠ owner)
    (hmem : ⟨model, column, target, .cascade⟩ ∈ cascadeKeys model)
    (hothers : ∀ fk ∈ cascadeKeys model,
      fk = ⟨model, column, target, .cascade⟩ ∨ fk.target ∉ cascadeModels owner)
    (hP : ∀ r' ∈ t.rows, r'.model = target → (key r' ∈ t.gone (owner, o) ↔ P r'))
    (hr : r ∈ t.rows) (hmodel : r.model = model) :
    key r ∈ t.gone (owner, o) ↔ r.Names t column target P := by
  have hnames : LeadsToGone t (owner, o) r ⟨model, column, target, .cascade⟩ ↔
      r.Names t column target P := leadsToGone_iff_names hne' hP
  rw [key_mem_gone_iff_leads hr hmodel hne]
  constructor
  · rintro ⟨fk, hfk, h⟩
    rcases hothers fk hfk with rfl | htarget
    · exact hnames.mp h
    · exact absurd h (not_leadsToGone htarget)
  · exact fun h => ⟨_, hmem, hnames.mpr h⟩

end Gone

section Client

variable {t : Table Row} {c : Uuid} {r : Row}

theorem gone_order (hr : r ∈ t.rows) (hmodel : r.model = .order) :
    key r ∈ t.gone (.client, c) ↔ r.Of .client c :=
  gone_of_owner (by decide) (by decide) (by decide) (by decide) hr hmodel

theorem gone_clientDevice (hr : r ∈ t.rows) (hmodel : r.model = .clientDevice) :
    key r ∈ t.gone (.client, c) ↔
      r.Of .client c ∨ r.Names t .address .clientAddress (Row.Of .client c) := by
  rw [key_mem_gone_iff_leads hr hmodel (show Model.clientDevice ≠ .client by decide),
    show cascadeKeys .clientDevice = [⟨.clientDevice, .client, .client, .cascade⟩,
      ⟨.clientDevice, .address, .clientAddress, .cascade⟩] from rfl]
  simp only [List.mem_cons, List.not_mem_nil, or_false, exists_eq_or_imp, exists_eq_left]
  refine or_congr (leadsToGone_owner (by decide))
    (leadsToGone_iff_names ?_ fun r' hr' hmodel' => ?_)
  · exact show Model.clientAddress ≠ .client by decide
  · exact gone_of_owner (by decide) (by decide) (by decide) (by decide) hr' hmodel'

theorem gone_review (hr : r ∈ t.rows) (hmodel : r.model = .review) :
    key r ∈ t.gone (.client, c) ↔ r.ReviewOf t c := by
  have hmaster : ¬LeadsToGone t (.client, c) r ⟨.review, .master, .master, .cascade⟩ :=
    not_leadsToGone (show Model.master ∉ cascadeModels .client by decide)
  rw [key_mem_gone_iff_leads hr hmodel (show Model.review ≠ .client by decide),
    show cascadeKeys .review = [⟨.review, .order, .order, .cascade⟩,
      ⟨.review, .master, .master, .cascade⟩, ⟨.review, .client, .client, .cascade⟩] from rfl]
  simp only [List.mem_cons, List.not_mem_nil, or_false, exists_eq_or_imp, exists_eq_left,
    hmaster, false_or]
  exact or_congr (leadsToGone_iff_names (show Model.order ≠ .client by decide)
    fun r' => gone_order) (leadsToGone_owner (by decide))

/-- A message goes with its chat, or with the owner it names itself. -/
theorem gone_supportMessage {owner : Model} {column : Column} {o : Uuid}
    (howner : Heads owner) (hne : Model.supportMessage ≠ owner)
    (hne' : Model.supportChat ≠ owner)
    (hmem : ⟨.supportMessage, column, owner, .cascade⟩ ∈ cascadeKeys .supportMessage)
    (hothers : ∀ fk ∈ cascadeKeys .supportMessage,
      fk = ⟨.supportMessage, .chat, .supportChat, .cascade⟩ ∨
        fk = ⟨.supportMessage, column, owner, .cascade⟩ ∨ fk.target ∉ cascadeModels owner)
    (hchat : ∀ r' ∈ t.rows, r'.model = .supportChat →
      (key r' ∈ t.gone (owner, o) ↔ r'.Of column o))
    (hr : r ∈ t.rows) (hmodel : r.model = .supportMessage) :
    key r ∈ t.gone (owner, o) ↔
      r.Names t .chat .supportChat (Row.Of column o) ∨ r.Of column o := by
  have hnames : LeadsToGone t (owner, o) r ⟨.supportMessage, .chat, .supportChat, .cascade⟩ ↔
      r.Names t .chat .supportChat (Row.Of column o) := leadsToGone_iff_names hne' hchat
  rw [key_mem_gone_iff_leads hr hmodel hne]
  constructor
  · rintro ⟨fk, hfk, h⟩
    rcases hothers fk hfk with rfl | rfl | htarget
    · exact Or.inl (hnames.mp h)
    · exact Or.inr ((leadsToGone_owner howner).mp h)
    · exact absurd h (not_leadsToGone htarget)
  · rintro (h | h)
    · exact ⟨_, by decide, hnames.mpr h⟩
    · exact ⟨_, hmem, (leadsToGone_owner howner).mpr h⟩

/-- What goes with a client. -/
theorem key_mem_gone_client (hr : r ∈ t.rows) :
    key r ∈ t.gone (.client, c) ↔ OwnedByClient t c r := by
  unfold OwnedByClient
  split
  · next h =>
      rw [key_row, h]
      exact owner_mem_gone (by decide)
  case h_9 h => exact gone_clientDevice hr h
  case h_14 h => exact gone_review hr h
  case h_15 h =>
    exact gone_of_names (by decide) (by decide) (by decide) (by decide)
      (fun _ => gone_review) hr h
  case h_16 h =>
    exact gone_supportMessage (by decide) (by decide) (by decide) (by decide) (by decide)
      (fun _ => gone_of_owner (by decide) (by decide) (by decide) (by decide)) hr h
  case h_17 =>
    refine iff_of_false (fun hgone => ?_) id
    have hmodels : ∀ model ∈ cascadeModels .client, model ∈ ([.client, .fcmDevice, .clientAddress,
        .order, .notification, .supportChat, .marketFavorite, .marketOrder, .clientDevice,
        .orderMaster, .orderInventoryUsage, .orderTracking, .dashboardOrderAssistant, .review,
        .reviewPhoto, .supportMessage] : List Model) := by decide
    have hmodel := hmodels _ (model_of_mem_gone hgone)
    simp only [List.mem_cons, List.not_mem_nil, or_false] at hmodel
    tauto
  all_goals
    rename_i h
    first
    | exact gone_of_owner (by decide) (by decide) (by decide) (by decide) hr h
    | exact gone_of_names (by decide) (by decide) (by decide) (by decide) (fun _ => gone_order) hr h

/-- A client is refused for an order that Payme was ever asked about. -/
theorem client_refused_iff :
    t.deleteCascade? (.client, c) = none ↔
      ∃ tx ∈ t.rows, tx.model = .paymeTransaction ∧
        tx.Names t .order .order (Row.Of .client c) := by
  rw [refused_iff_protectors, show protectors .client =
    [⟨.paymeTransaction, .order, .order, .protect⟩] by decide +kernel]
  simp only [List.mem_singleton, exists_eq_left]
  refine exists_congr fun tx => and_congr_right fun _ => and_congr_right fun _ => ?_
  exact leadsToGone_iff_names (show Model.order ≠ .client by decide) fun _ => gone_order

end Client

section Master

variable {t : Table Row} {m : Uuid} {r : Row}

theorem gone_ofMaster_review (hr : r ∈ t.rows) (hmodel : r.model = .review) :
    key r ∈ t.gone (.master, m) ↔ r.Of .master m :=
  gone_of_owner (by decide) (by decide) (by decide) (by decide) hr hmodel

theorem gone_masterInventory (hr : r ∈ t.rows) (hmodel : r.model = .masterInventory) :
    key r ∈ t.gone (.master, m) ↔ r.Of .master m :=
  gone_of_owner (by decide) (by decide) (by decide) (by decide) hr hmodel

/-- What goes with a master. -/
theorem key_mem_gone_master (hr : r ∈ t.rows) :
    key r ∈ t.gone (.master, m) ↔ OwnedByMaster t m r := by
  unfold OwnedByMaster
  split
  · next h =>
      rw [key_row, h]
      exact owner_mem_gone (by decide)
  case h_13 h =>
    exact gone_of_names (by decide) (by decide) (by decide) (by decide)
      (fun _ => gone_ofMaster_review) hr h
  case h_14 h =>
    exact gone_supportMessage (by decide) (by decide) (by decide) (by decide) (by decide)
      (fun _ => gone_of_owner (by decide) (by decide) (by decide) (by decide)) hr h
  case h_15 =>
    refine iff_of_false (fun hgone => ?_) id
    have hmodels : ∀ model ∈ cascadeModels .master, model ∈ ([.master, .fcmDevice,
        .masterCertificate, .masterDocument, .review, .masterWallet, .walletTransaction,
        .withdrawRequest, .masterExpense, .masterInventory, .notification, .supportChat,
        .reviewPhoto, .supportMessage] : List Model) := by decide
    have hmodel := hmodels _ (model_of_mem_gone hgone)
    simp only [List.mem_cons, List.not_mem_nil, or_false] at hmodel
    tauto
  all_goals
    rename_i h
    exact gone_of_owner (by decide) (by decide) (by decide) (by decide) hr h

/-- A master is refused for an assignment, active or not, as a master or as an assistant, and
for an item that was used in an order. -/
theorem master_refused_iff :
    t.deleteCascade? (.master, m) = none ↔
      ∃ r ∈ t.rows, r.model = .orderMaster ∧ r.Of .master m ∨
        r.model = .dashboardOrderAssistant ∧ r.Of .assistant m ∨
        r.model = .orderInventoryUsage ∧
          r.Names t .inventory .masterInventory (Row.Of .master m) := by
  rw [refused_iff_protectors, show protectors .master =
    [⟨.orderMaster, .master, .master, .protect⟩,
      ⟨.orderInventoryUsage, .inventory, .masterInventory, .protect⟩,
      ⟨.dashboardOrderAssistant, .assistant, .master, .protect⟩] by decide +kernel]
  have hinventory : ∀ r : Row, LeadsToGone t (.master, m) r
      ⟨.orderInventoryUsage, .inventory, .masterInventory, .protect⟩ ↔
      r.Names t .inventory .masterInventory (Row.Of .master m) := fun r =>
    leadsToGone_iff_names (show Model.masterInventory ≠ .master by decide)
      fun _ => gone_masterInventory
  have hmaster : Heads .master := by decide
  simp only [List.mem_cons, List.not_mem_nil, or_false, exists_eq_or_imp, exists_eq_left,
    hinventory, leadsToGone_owner hmaster, ← exists_or, ← and_or_left]
  refine exists_congr fun r => and_congr_right fun _ => or_congr_right or_comm

end Master

section Staff

variable {t : Table Row} {owner model : Model} {column : Column} {pk : Uuid}

/-- A model that one key protects. -/
theorem refused_iff_protector (howner : Heads owner)
    (hprotectors : protectors owner = [⟨model, column, owner, .protect⟩]) :
    t.deleteCascade? (owner, pk) = none ↔ ∃ r ∈ t.rows, r.model = model ∧ r.Of column pk := by
  rw [refused_iff_protectors, hprotectors]
  simp only [List.mem_singleton, exists_eq_left, leadsToGone_owner howner]

theorem not_refused (hprotectors : protectors owner = []) :
    t.deleteCascade? (owner, pk) ≠ none := by
  rw [Ne, refused_iff_protectors, hprotectors]
  rintro ⟨fk, hfk, -⟩
  exact List.not_mem_nil hfk

/-- A category goes with its services, and is refused for an order of one of them. -/
theorem serviceCategory_refused_iff :
    t.deleteCascade? (.serviceCategory, pk) = none ↔ ∃ o ∈ t.rows, o.model = .order ∧
      o.Names t .service .service (Row.Of .category pk) := by
  rw [refused_iff_protectors, show protectors .serviceCategory =
    [⟨.order, .service, .service, .protect⟩] by decide +kernel]
  simp only [List.mem_singleton, exists_eq_left]
  refine exists_congr fun o => and_congr_right fun _ => and_congr_right fun _ => ?_
  exact leadsToGone_iff_names (show Model.service ≠ .serviceCategory by decide)
    fun _ => gone_of_owner (by decide) (by decide) (by decide) (by decide)

end Staff

/-! ### The views -/

/-- `instance.delete()`; a `ProtectedError` is an exception nothing catches. -/
def deleteRow (k : Key) (t : Table Row) : Except Error (Table Row) :=
  (t.deleteCascade? k).elim (.error (.serverError "ProtectedError")) .ok

/-- `DeleteAccountView`, and `DashboardClientDetailAPIView` and `ClientDetailAPIView` of a
client that exists. -/
def deleteClient (c : Uuid) : Table Row → Except Error (Table Row) := deleteRow (.client, c)

/-- `DeleteAccountView`, and `DashboardMasterDetailAPIView` and `MasterDetailAPIView` of a
master that exists. -/
def deleteMaster (m : Uuid) : Table Row → Except Error (Table Row) := deleteRow (.master, m)

/-- `DashboardMarketProductDetailAPIView.delete` of a product that exists: whether it is
deleted. An archived product keeps its foreign keys. -/
def DashboardMarketProductDetailAPIView.delete (pk : Uuid) (t : Table Row) :
    Except Error (Bool × Table Row) :=
  if ∃ o ∈ t.rows, o.model = .marketOrder ∧ o.Of .product pk then .ok (false, t)
  else (deleteRow (.marketProduct, pk) t).map fun t' => (true, t')

section Views

variable {t t' : Table Row} {k : Key}

theorem deleteRow_eq_error_iff {e : Error} :
    deleteRow k t = .error e ↔ e = .serverError "ProtectedError" ∧ t.deleteCascade? k = none := by
  unfold deleteRow
  cases t.deleteCascade? k with
  | none => simp [eq_comm]
  | some t' => simp

theorem deleteRow_eq_ok_iff : deleteRow k t = .ok t' ↔ t.deleteCascade? k = some t' := by
  unfold deleteRow
  cases t.deleteCascade? k with
  | none => simp
  | some t' => simp

/-- The row, with those of its keys whose row is not there any more set to null. -/
structure Keeps (t' : Table Row) (r x : Row) : Prop where
  key : key x = key r
  column : ∀ fk ∈ foreignKeys, fk.model = r.model → ∀ pk,
    x.column fk.column = some pk ↔
      r.column fk.column = some pk ∧ ∃ r' ∈ t'.rows, Relational.key r' = (fk.target, pk)

/-- The rows that satisfy the condition are deleted: the others are kept, and no key is left
without its row. -/
structure Deletes (Owned : Row → Prop) (t t' : Table Row) : Prop where
  sound : t'.Sound
  kept : ∀ r ∈ t.rows, ¬Owned r → ∃ x ∈ t'.rows, Keeps t' r x
  only : ∀ x ∈ t'.rows, ∃ r ∈ t.rows, ¬Owned r ∧ Keeps t' r x

theorem deletes_of_ok {Owned : Row → Prop} (hsound : t.Sound)
    (howned : ∀ r ∈ t.rows, (key r ∈ t.gone k ↔ Owned r)) (h : deleteRow k t = .ok t') :
    Deletes Owned t t' := by
  rw [deleteRow_eq_ok_iff] at h
  have hsound' := hsound.deleteCascade? h
  obtain ⟨-, rfl⟩ := deleteCascade?_eq_some_iff.mp h
  have hkeeps : ∀ r ∈ t.rows, key r ∉ t.gone k →
      Keeps (t.without (t.gone k)) r (clear (inside (t.gone k)) r) := by
    intro r hr hout
    refine ⟨rfl, fun fk hfk hmodel pk => ?_⟩
    refine (Row.column_setNull (p := inside (t.gone k)) hfk hmodel pk).trans ?_
    refine and_congr_right fun hcolumn => ⟨fun hclear => ?_, ?_⟩
    · have href : (fk.onDelete, fk.target, pk) ∈ refs r :=
        Row.mem_refs.mpr ⟨fk, hfk, hmodel, hcolumn, rfl, rfl⟩
      exact hsound' _ (mem_without.mpr ⟨r, hr, hout, rfl⟩) _
        ((Linked.mem_refs_clear _ r _).mpr ⟨href, hclear⟩)
    · rintro ⟨r', hr', hkey⟩ ⟨-, hgone⟩
      obtain ⟨r'', -, hout', rfl⟩ := mem_without.mp hr'
      rw [inside_eq_true, ← hkey] at hgone
      exact hout' hgone
  refine ⟨hsound', fun r hr hnot => ?_, fun x hx => ?_⟩
  · have hout : key r ∉ t.gone k := fun hgone => hnot ((howned r hr).mp hgone)
    exact ⟨_, mem_without.mpr ⟨r, hr, hout, rfl⟩, hkeeps r hr hout⟩
  · obtain ⟨r, hr, hout, rfl⟩ := mem_without.mp hx
    exact ⟨r, hr, fun hnot => hout ((howned r hr).mpr hnot), hkeeps r hr hout⟩

end Views

/-- Deleting a client: refused exactly for an order that Payme has a transaction of, in any
state; otherwise the rows of the client are deleted and no others. -/
theorem delete_client {t : Table Row} (hsound : t.Sound) (c : Uuid) :
    (∀ e, deleteClient c t = .error e ↔ e = .serverError "ProtectedError" ∧
        ∃ tx ∈ t.rows, tx.model = .paymeTransaction ∧
          tx.Names t .order .order (Row.Of .client c)) ∧
      ∀ t', deleteClient c t = .ok t' → Deletes (OwnedByClient t c) t t' := by
  refine ⟨fun e => ?_, fun t' h => ?_⟩
  · rw [deleteClient, deleteRow_eq_error_iff, client_refused_iff]
  · exact deletes_of_ok hsound (fun _ hr => key_mem_gone_client hr) h

namespace Sample

/-- The foreign keys of a row. -/
def row (model : Model) (id : Uuid) (columns : List (Column × Uuid)) : Row where
  model := model
  id := id
  column := fun column => columns.lookup column

/-- Two clients with an order each, one of them at Payme; two masters, one of them with a
wallet and one assigned to an order. -/
def accounts : Table Row where
  rows :=
    [row .client 1 [], row .client 2 [], row .master 3 [], row .master 4 [], row .service 5 [],
     row .order 6 [(.client, 1), (.master, 3), (.service, 5)],
     row .order 7 [(.client, 2), (.service, 5)], row .orderTracking 8 [(.order, 6)],
     row .orderMaster 9 [(.order, 7), (.master, 4)], row .paymeTransaction 10 [(.order, 7)],
     row .masterWallet 11 [(.master, 3)],
     row .walletTransaction 12 [(.master, 3), (.order, 6)]]
  nodup_keys := by decide

theorem accounts_sound : accounts.Sound := by
  unfold Table.Sound
  decide +kernel

end Sample

theorem delete_client_sample :
    (∃ t', deleteClient 1 Sample.accounts = .ok t' ∧
        Deletes (OwnedByClient Sample.accounts 1) Sample.accounts t') ∧
      deleteClient 2 Sample.accounts = .error (.serverError "ProtectedError") := by
  have hclient := fun c => delete_client Sample.accounts_sound c
  refine ⟨?_, ((hclient 2).1 _).mpr ⟨rfl, ?_⟩⟩
  · obtain ⟨t', ht'⟩ := Option.isSome_iff_exists.mp
      (by decide +kernel : (Sample.accounts.deleteCascade? (.client, 1)).isSome = true)
    rw [← deleteRow_eq_ok_iff] at ht'
    exact ⟨t', ht', (hclient 1).2 t' ht'⟩
  · exact ⟨Sample.row .paymeTransaction 10 [(.order, 7)], by simp [Sample.accounts], rfl,
      Sample.row .order 7 [(.client, 2), (.service, 5)], by simp [Sample.accounts], rfl, rfl, rfl⟩

/-- Deleting a master: refused exactly for an assignment, active or not, or an item used in an
order; otherwise the rows of the master are deleted, wallet and stock among them, and no
others. -/
theorem delete_master {t : Table Row} (hsound : t.Sound) (m : Uuid) :
    (∀ e, deleteMaster m t = .error e ↔ e = .serverError "ProtectedError" ∧
        ∃ r ∈ t.rows, r.model = .orderMaster ∧ r.Of .master m ∨
          r.model = .dashboardOrderAssistant ∧ r.Of .assistant m ∨
          r.model = .orderInventoryUsage ∧
            r.Names t .inventory .masterInventory (Row.Of .master m)) ∧
      ∀ t', deleteMaster m t = .ok t' → Deletes (OwnedByMaster t m) t t' := by
  refine ⟨fun e => ?_, fun t' h => ?_⟩
  · rw [deleteMaster, deleteRow_eq_error_iff, master_refused_iff]
  · exact deletes_of_ok hsound (fun _ hr => key_mem_gone_master hr) h

theorem delete_master_sample :
    (∃ t', deleteMaster 3 Sample.accounts = .ok t' ∧
        Deletes (OwnedByMaster Sample.accounts 3) Sample.accounts t') ∧
      deleteMaster 4 Sample.accounts = .error (.serverError "ProtectedError") := by
  have hmaster := fun m => delete_master Sample.accounts_sound m
  refine ⟨?_, ((hmaster 4).1 _).mpr ⟨rfl, ?_⟩⟩
  · obtain ⟨t', ht'⟩ := Option.isSome_iff_exists.mp
      (by decide +kernel : (Sample.accounts.deleteCascade? (.master, 3)).isSome = true)
    rw [← deleteRow_eq_ok_iff] at ht'
    exact ⟨t', ht', (hmaster 3).2 t' ht'⟩
  · exact ⟨Sample.row .orderMaster 9 [(.order, 7), (.master, 4)], by simp [Sample.accounts],
      Or.inl ⟨rfl, rfl⟩⟩

/-- The deletions of the staff: an order is refused for a Payme transaction, a service or a
category for an order, a product of the warehouse for an item some master holds or held, and
an item for its use. A product of the market is never refused: it is archived exactly when
deleting it would be. Nothing else is protected. -/
theorem staff_deletions (t : Table Row) (pk : Uuid) :
    (t.deleteCascade? (.order, pk) = none ↔
        ∃ r ∈ t.rows, r.model = .paymeTransaction ∧ r.Of .order pk) ∧
      (t.deleteCascade? (.service, pk) = none ↔
        ∃ r ∈ t.rows, r.model = .order ∧ r.Of .service pk) ∧
      (t.deleteCascade? (.serviceCategory, pk) = none ↔
        ∃ r ∈ t.rows, r.model = .order ∧ r.Names t .service .service (Row.Of .category pk)) ∧
      (t.deleteCascade? (.warehouseProduct, pk) = none ↔
        ∃ r ∈ t.rows, r.model = .masterInventory ∧ r.Of .warehouseProduct pk) ∧
      (t.deleteCascade? (.masterInventory, pk) = none ↔
        ∃ r ∈ t.rows, r.model = .orderInventoryUsage ∧ r.Of .inventory pk) ∧
      (∃ deleted t', DashboardMarketProductDetailAPIView.delete pk t = .ok (deleted, t') ∧
        (deleted = false ↔ t.deleteCascade? (.marketProduct, pk) = none)) ∧
      ∀ model, model ∉ ([.client, .master, .order, .service, .serviceCategory, .warehouseProduct,
        .masterInventory, .marketProduct] : List Model) → t.deleteCascade? (model, pk) ≠ none := by
  have hmarket : t.deleteCascade? (.marketProduct, pk) = none ↔
      ∃ r ∈ t.rows, r.model = .marketOrder ∧ r.Of .product pk :=
    refused_iff_protector (by decide) (by decide +kernel)
  refine ⟨?_, ?_, serviceCategory_refused_iff, ?_, ?_, ?_, fun model hmodel => ?_⟩
  · exact refused_iff_protector (by decide) (by decide +kernel)
  · exact refused_iff_protector (by decide) (by decide +kernel)
  · exact refused_iff_protector (by decide) (by decide +kernel)
  · exact refused_iff_protector (by decide) (by decide +kernel)
  · by_cases horders : ∃ o ∈ t.rows, o.model = .marketOrder ∧ o.Of .product pk
    · exact ⟨false, t, if_pos horders, iff_of_true rfl (hmarket.mpr horders)⟩
    · have hok := fun h => horders (hmarket.mp h)
      obtain ⟨t', ht'⟩ := Option.ne_none_iff_exists'.mp hok
      refine ⟨true, t', (if_neg horders).trans ?_, iff_of_false (by decide) hok⟩
      rw [deleteRow, ht']
      rfl
  · refine not_refused ?_
    revert hmodel
    cases model <;> decide +kernel

end Schema

end Homex
