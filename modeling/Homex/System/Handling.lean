import Homex.System.Effects

/-!
# Every request has an effect

One lemma for each view reads its run step by step and names the effect; a
request that is refused has the effect of doing nothing, by `clean_view`.
-/

namespace Homex

open Relational Action Code Orders Wallet Warehouse Payme

variable {cfg : Settings} {ctx : Context} {db db' : DB}

/-- A reader that succeeds leaves the database as it is. -/
theorem eq_of_reads {α : Type} {x : Code α} {a : α} {s s' : DB} (hx : Within Eq x)
    (h : x s = (.ok a, s')) : s = s' :=
  hx s _ s' h

section OrderViews

theorem getOrder_ok {pk : Uuid} {o : Order} (h : getOrder pk db = (.ok o, db')) :
    db.orders.find? pk = some o ∧ o.id = pk ∧ db = db' := by
  rw [getOrder, fetch_eq_ok] at h
  exact ⟨h.1, Table.key_of_find? h.1, h.2⟩

theorem getClientOrder_ok {pk user : Uuid} {o : Order}
    (h : getClientOrder pk user db = (.ok o, db')) :
    db.orders.find? pk = some o ∧ o.id = pk ∧ o.client = user ∧ db = db' := by
  simp only [getClientOrder, bind_eq_ok, require_eq_ok, pure_eq_ok] at h
  obtain ⟨_, _, h, _, _, ⟨hclient, rfl⟩, rfl, rfl⟩ := h
  obtain ⟨hfind, hid, hdb⟩ := getOrder_ok h
  exact ⟨hfind, hid, hclient, hdb⟩

theorem getMasterOrder_ok {pk user : Uuid} {o : Order}
    (h : getMasterOrder pk user db = (.ok o, db')) :
    db.orders.find? pk = some o ∧ o.id = pk ∧ o.master = some user ∧ db = db' := by
  simp only [getMasterOrder, bind_eq_ok, require_eq_ok, pure_eq_ok] at h
  obtain ⟨_, _, h, _, _, ⟨hmaster, rfl⟩, rfl, rfl⟩ := h
  obtain ⟨hfind, hid, hdb⟩ := getOrder_ok h
  exact ⟨hfind, hid, hmaster, hdb⟩

theorem lockClientOrder_ok {pk user : Uuid} {allowed : List OrderStatus} {o : Order}
    (h : lockClientOrder pk user allowed db = (.ok o, db')) :
    db.orders.find? pk = some o ∧ o.id = pk ∧ o.status ∈ allowed ∧ db = db' := by
  simp only [lockClientOrder, checkTransition, bind_eq_ok, require_eq_ok, pure_eq_ok] at h
  obtain ⟨_, _, h, _, _, ⟨hst, rfl⟩, rfl, rfl⟩ := h
  obtain ⟨hfind, hid, -, hdb⟩ := getClientOrder_ok h
  exact ⟨hfind, hid, hst, hdb⟩

theorem lockMasterOrder_ok {pk user : Uuid} {allowed : List OrderStatus} {o : Order}
    (h : lockMasterOrder pk user allowed db = (.ok o, db')) :
    db.orders.find? pk = some o ∧ o.id = pk ∧ o.status ∈ allowed ∧ db = db' := by
  simp only [lockMasterOrder, checkTransition, bind_eq_ok, require_eq_ok, pure_eq_ok] at h
  obtain ⟨_, _, h, _, _, ⟨hst, rfl⟩, rfl, rfl⟩ := h
  obtain ⟨hfind, hid, -, hdb⟩ := getMasterOrder_ok h
  exact ⟨hfind, hid, hst, hdb⟩

theorem effect_clientCreate {user : Uuid} {data : Orders.OrderPayload} {o : Order}
    (h : ClientOrderListCreateView.post ctx user data db = (.ok o, db')) :
    Effect cfg ctx db db' (.clientCreate user data) := by
  simp only [ClientOrderListCreateView.post, OrderSerializer.create, bind_eq_ok, createOrder,
    write_eq_ok, Option.map_eq_some_iff, pure_eq_ok] at h
  obtain ⟨_, _, h₁, _, _, h₂, _, _, h₃, device, db₁, h₄, _, _, ⟨t, hins, rfl⟩, rfl, rfl⟩ := h
  obtain rfl := eq_of_reads within_requirePk h₁
  obtain rfl := eq_of_reads within_requirePk h₂
  obtain rfl := eq_of_reads within_requirePk h₃
  have hframe := within_resolveDevice _ _ _ h₄
  rw [hframe.orders] at hins
  exact .create .client hins hframe.payme hframe.wallet hframe.journal

theorem effect_clientCancel {user pk : Uuid} {reason : String} {o : Order}
    (h : ClientOrderCancelView.post user pk reason db = (.ok o, db')) :
    Effect cfg ctx db db' (.clientCancel user pk reason) := by
  simp only [ClientOrderCancelView.post, saveOrder, atomic_eq_ok, bind_eq_ok, modify_eq_ok,
    pure_eq_ok] at h
  obtain ⟨o', _, hlock, _, _, rfl, -, rfl⟩ := h
  obtain ⟨hfind, rfl, hst, rfl⟩ := lockClientOrder_ok hlock
  exact .rewrite (.cancel hst) hfind rfl rfl rfl rfl

theorem effect_clientPay {user pk : Uuid} {method : PaymentMethodField} {resp : PayResponse}
    (h : ClientOrderPayView.post ctx user pk method db = (.ok resp, db')) :
    Effect cfg ctx db db' (.clientPay user pk method) := by
  simp only [ClientOrderPayView.post, atomic_eq_ok, bind_eq_ok, require_eq_ok] at h
  obtain ⟨o, _, hget, _, _, ⟨hst, rfl⟩, _, _, ⟨hunpaid, rfl⟩, h⟩ := h
  obtain ⟨hfind, rfl, rfl, rfl⟩ := getClientOrder_ok hget
  cases method with
  | missing => simp only [raise_ne_ok] at h
  | invalid text => simp only [raise_ne_ok] at h
  | choice method =>
      by_cases hcash : method = .cash
      · subst hcash
        simp only [bind_eq_ok, pure_eq_ok] at h
        obtain ⟨b, _, hc, _, _, hrefresh, -, rfl⟩ := h
        obtain ⟨-, -, rfl⟩ := getOrder_ok hrefresh
        obtain ⟨o', hfind', ⟨-, hne, -⟩ | ⟨-, credit, hc⟩⟩ := completePaidOrder_ok hc
        · obtain rfl : o = o' := Option.some.inj (hfind.symm.trans hfind')
          exact absurd hst hne
        · obtain rfl : o = o' := Option.some.inj (hfind.symm.trans hfind')
          exact .pay hunpaid hc
      · have hrun : (do
            saveOrder { o with paymentType := some .online }
            saveOrder (Order.recalculateTotal { o with paymentType := some .online })
            pure (PayResponse.paymentUrl o.id method) : Code PayResponse) db =
              (.ok resp, db') := by
          cases method
          · exact absurd rfl hcash
          · exact h
          · exact h
          · exact h
        simp only [saveOrder, bind_eq_ok, modify_eq_ok, pure_eq_ok] at hrun
        obtain ⟨_, _, rfl, _, _, rfl, -, rfl⟩ := hrun
        refine .rewrite (.payOnline hst hcash) hfind ?_ rfl rfl rfl
        exact Table.save_save rfl

theorem effect_masterAccept {user pk : Uuid} {o : Order}
    (h : MasterOrderAcceptView.post user pk db = (.ok o, db')) :
    Effect cfg ctx db db' (.masterAccept user pk) := by
  simp only [MasterOrderAcceptView.post, atomic_eq_ok, bind_eq_ok, fetch_eq_ok, require_eq_ok,
    saveOrder, saveAssignedMaster, ite_eq_ok, modify_eq_ok, pure_eq_ok] at h
  obtain ⟨assignment, _, ⟨-, rfl⟩, _, _, ⟨-, rfl⟩, o', _, ⟨hfind, rfl⟩, h⟩ := h
  obtain rfl : o'.id = pk := Table.key_of_find? hfind
  rcases h with ⟨hnew, _, _, rfl, ⟨-, _, _, rfl, -, rfl⟩ | ⟨-, -, rfl⟩⟩ |
    ⟨-, ⟨-, _, _, rfl, -, rfl⟩ | ⟨-, -, rfl⟩⟩
  · exact .rewrite (.accept hnew) hfind rfl rfl rfl rfl
  · exact .rewrite (.accept hnew) hfind rfl rfl rfl rfl
  · exact .frame ⟨rfl, rfl, rfl, rfl⟩
  · exact .frame ⟨rfl, rfl, rfl, rfl⟩

theorem effect_masterOnWay {user pk : Uuid} {o : Order}
    (h : MasterOrderOnWayView.post user pk db = (.ok o, db')) :
    Effect cfg ctx db db' (.masterOnWay user pk) := by
  simp only [MasterOrderOnWayView.post, saveOrder, atomic_eq_ok, bind_eq_ok, modify_eq_ok,
    pure_eq_ok] at h
  obtain ⟨o', _, hlock, _, _, rfl, -, rfl⟩ := h
  obtain ⟨hfind, rfl, hst, rfl⟩ := lockMasterOrder_ok hlock
  exact .rewrite (.onWay (List.mem_singleton.mp hst)) hfind rfl rfl rfl rfl

theorem effect_masterStart {user pk : Uuid} {o : Order}
    (h : MasterOrderStartView.post user pk db = (.ok o, db')) :
    Effect cfg ctx db db' (.masterStart user pk) := by
  simp only [MasterOrderStartView.post, OrderStartSerializer.save, saveOrder, atomic_eq_ok,
    bind_eq_ok, require_eq_ok, ite_eq_ok, modify_eq_ok, pure_eq_ok] at h
  obtain ⟨o', _, hget, ⟨-, -, rfl⟩ | ⟨-, _, _, ⟨hst, rfl⟩, _, _, rfl, -, rfl⟩⟩ := h
  · obtain ⟨-, -, -, rfl⟩ := getMasterOrder_ok hget
    exact .frame (.rfl _)
  · obtain ⟨hfind, rfl, -, rfl⟩ := getMasterOrder_ok hget
    exact .rewrite (.start hst) hfind rfl rfl rfl rfl

theorem effect_masterReject {user pk : Uuid} {reason : String} {o : Order}
    (h : MasterOrderRejectView.post user pk reason db = (.ok o, db')) :
    Effect cfg ctx db db' (.masterReject user pk reason) := by
  simp only [MasterOrderRejectView.post, saveOrder, atomic_eq_ok, bind_eq_ok, modify_eq_ok,
    pure_eq_ok] at h
  obtain ⟨o', _, hlock, _, _, rfl, -, rfl⟩ := h
  obtain ⟨hfind, rfl, hst, rfl⟩ := lockMasterOrder_ok hlock
  exact .rewrite (.reject hst) hfind rfl rfl rfl rfl

/-- The unrounded inventory total a check computes once its items are used. -/
def checkTotal (db : DB) (order : Uuid) (inMemory : Int) : Int :=
  if OrderCompleteSerializer.usageTotal db order = 0 then inMemory
  else Money.toProduct (OrderCompleteSerializer.usageTotal db order)

/-- A check that is submitted: the items are used, then the order is saved. -/
theorem masterComplete_ok {user pk : Uuid} {data : OrderCompletePayload} {o' : Order}
    (h : MasterOrderCompleteView.post ctx user pk data db = (.ok o', db')) :
    ∃ o inMemory db₁, db.orders.find? pk = some o ∧ o.id = pk ∧ o.master = some user ∧
      o.status ∈ activeOrderStatuses ∧
      OrderCompleteSerializer.useItems ctx o 0 data.usedItems db = (.ok inMemory, db₁) ∧
      o' = OrderCompleteSerializer.checked ctx data o (checkTotal db₁ o.id inMemory) ∧
      db' = { db₁ with
        orders := db₁.orders.save o', journal := db₁.journal ++ [.checkSubmitted o'] } := by
  simp only [MasterOrderCompleteView.post, OrderCompleteSerializer.save, saveOrder, record,
    atomic_eq_ok, bind_eq_ok, fetch_eq_ok, require_eq_ok, get_eq_ok, modify_eq_ok,
    pure_eq_ok] at h
  obtain ⟨o, _, hget, _, _, hvalid, o'', _, ⟨hfind', rfl⟩, _, _, ⟨hst, rfl⟩, inMemory, db₁,
    hitems, _, _, ⟨rfl, rfl⟩, _, _, rfl, _, _, rfl, rfl, rfl⟩ := h
  obtain ⟨hfind, hid, hmaster, rfl⟩ := getMasterOrder_ok hget
  obtain rfl := eq_of_reads within_completeValidate hvalid
  obtain rfl : o = o'' := Option.some.inj (hfind.symm.trans hfind')
  exact ⟨o, inMemory, db₁, hfind, hid, hmaster, hst, hitems, rfl, rfl⟩

theorem effect_masterComplete {user pk : Uuid} {data : OrderCompletePayload} {o : Order}
    (h : MasterOrderCompleteView.post ctx user pk data db = (.ok o, db')) :
    Effect cfg ctx db db' (.masterComplete user pk data) := by
  obtain ⟨o, inMemory, db₁, hfind, rfl, hmaster, hst, hitems, rfl, rfl⟩ := masterComplete_ok h
  have hframe := within_useItems _ _ _ hitems
  exact .check hfind hst hmaster (congrArg (Table.save · _) hframe.orders) hframe.payme
    hframe.wallet (congrArg (· ++ _) hframe.journal)

theorem effect_masterReceiptConfirm {user pk : Uuid} {b : Bool}
    (h : MasterOrderReceiptConfirmView.post ctx user pk db = (.ok b, db')) :
    Effect cfg ctx db db' (.masterReceiptConfirm user pk) := by
  simp only [MasterOrderReceiptConfirmView.post, approveOrderReceipt, saveOrder, bind_eq_ok,
    require_eq_ok, ite_eq_ok, modify_eq_ok, pure_eq_ok] at h
  obtain ⟨o, _, hget, _, _, ⟨hst, rfl⟩, ⟨-, -, rfl⟩ | ⟨-, _, _, rfl, -, rfl⟩⟩ := h
  · obtain ⟨-, -, -, rfl⟩ := getMasterOrder_ok hget
    exact .frame (.rfl _)
  · obtain ⟨hfind, rfl, -, rfl⟩ := getMasterOrder_ok hget
    exact .rewrite (.confirm hst) hfind rfl rfl rfl rfl

theorem effect_useInventory {user pk : Uuid} {data : UseInventoryPayload}
    {item : MasterInventory}
    (h : UseInventoryView.post ctx user pk data db = (.ok item, db')) :
    Effect cfg ctx db db' (.useInventory user pk data) := by
  simp only [UseInventoryView.post, UseInventorySerializer.save, saveInventory, createUsage,
    saveOrder, atomic_eq_ok, bind_eq_ok, fetch_eq_ok, require_eq_ok, get_eq_ok, modify_eq_ok,
    write_eq_ok, Option.map_eq_some_iff, pure_eq_ok] at h
  obtain ⟨item, _, ⟨-, rfl⟩, _, _, ⟨-, rfl⟩, o, _, hget, _, _, ⟨hmaster, rfl⟩, _, _, ⟨_, _,
    ⟨-, rfl⟩, _, _, rfl, -, rfl⟩, product, _, ⟨-, rfl⟩, _, _, ⟨us, -, rfl⟩, _, _, ⟨rfl, rfl⟩,
    _, _, rfl, -, rfl⟩ := h
  obtain ⟨hfind, hid, rfl⟩ := getOrder_ok hget
  exact .rewrite (.useInventory hid.symm hmaster) (hid ▸ hfind) rfl rfl rfl rfl

end OrderViews

section DashboardViews

open Dashboard DashboardOrderSerializer

/-- Validation fills in address fields and leaves the rest of the payload. -/
theorem dashboardValidate_ok {client address : Option Uuid} {data data' : Dashboard.OrderPayload}
    (h : DashboardOrderSerializer.validate client address data db = (.ok data', db')) :
    (data' = data ∨ ∃ a, data' = withAddress data a) ∧ db = db' := by
  refine ⟨?_, eq_of_reads within_dashboardValidate h⟩
  unfold DashboardOrderSerializer.validate at h
  cases ha : (data.address.getD none).or address with
  | none =>
      rw [ha, pure_eq_ok] at h
      exact Or.inl h.1.symm
  | some pk =>
      simp only [ha, bind_eq_ok, pure_eq_ok] at h
      obtain ⟨a, _, -, _, _, -, rfl, -⟩ := h
      exact Or.inr ⟨a, rfl⟩

theorem status_of_dashboardValidate {data data' : Dashboard.OrderPayload}
    (h : data' = data ∨ ∃ a, data' = withAddress data a) : data'.status = data.status := by
  rcases h with rfl | ⟨a, rfl⟩
  · rfl
  · rfl

theorem effect_dashboardCreate {data : Dashboard.OrderPayload} {o : Order}
    (h : DashboardOrderSerializer.create ctx data db = (.ok o, db')) :
    Effect cfg ctx db db' (.dashboardCreate data) := by
  simp only [DashboardOrderSerializer.create, required, requiredOrAddress, validateStatus,
    createOrder, bind_eq_ok, fetch_eq_ok, require_eq_ok, write_eq_ok, Option.map_eq_some_iff,
    pure_eq_ok] at h
  obtain ⟨_, _, hcheck, _, _, ⟨-, rfl⟩, _, _, ⟨-, rfl⟩, _, _, ⟨-, rfl⟩, _, _, ⟨-, rfl⟩, _, _,
    ⟨hst, rfl⟩, data', _, hvalid, _, _, ⟨-, rfl⟩, _, _, ⟨-, rfl⟩, _, _, ⟨-, rfl⟩, _, _,
    ⟨t, hins, rfl⟩, -, rfl⟩ := h
  obtain rfl := eq_of_reads within_checkFields hcheck
  obtain ⟨hdata, rfl⟩ := dashboardValidate_ok hvalid
  exact .create (.dashboard (status_of_dashboardValidate hdata) hst) hins rfl rfl rfl

theorem effect_dashboardUpdate {pk : Uuid} {data : Dashboard.OrderPayload} {o : Order}
    (h : DashboardOrderSerializer.update pk data db = (.ok o, db')) :
    Effect cfg ctx db db' (.dashboardUpdate pk data) := by
  simp only [DashboardOrderSerializer.update, validateStatus, saveOrder, bind_eq_ok,
    require_eq_ok, modify_eq_ok, pure_eq_ok] at h
  obtain ⟨o', _, hget, _, _, hcheck, _, _, ⟨hst, rfl⟩, data', _, hvalid, _, _, rfl, -, rfl⟩ := h
  obtain ⟨hfind, rfl, rfl⟩ := getOrder_ok hget
  obtain rfl := eq_of_reads within_checkFields hcheck
  obtain ⟨hdata, rfl⟩ := dashboardValidate_ok hvalid
  exact .rewrite (.dashboardUpdate hdata hst) hfind rfl rfl rfl rfl

theorem effect_dashboardStatus {pk : Uuid} {data : OrderStatusPayload} {o : Order}
    (h : DashboardOrderStatusAPIView.patch pk data db = (.ok o, db')) :
    Effect cfg ctx db db' (.dashboardStatus pk data) := by
  simp only [DashboardOrderStatusAPIView.patch, DashboardOrderStatusSerializer.save, saveOrder,
    atomic_eq_ok, bind_eq_ok, fetch_eq_ok, require_eq_ok, modify_eq_ok, pure_eq_ok] at h
  obtain ⟨_, _, hget, o', _, ⟨hfind, rfl⟩, _, _, ⟨hst, rfl⟩, _, _, rfl, -, rfl⟩ := h
  obtain ⟨-, -, rfl⟩ := getOrder_ok hget
  obtain rfl := Table.key_of_find? hfind
  exact .rewrite (.dashboardStatus hst) hfind rfl rfl rfl rfl

end DashboardViews

section InternalViews

open InternalApi InternalOrderWriteSerializer

theorem internalValidate_ok {current : OrderStatus} {data : InternalApi.OrderPayload}
    {attrs : OrderAttrs} (h : validate ctx current data db = (.ok attrs, db')) :
    (∃ date time, attrs = attrsOf data date time) ∧
      canAdminSetStatus current
        ((data.status.map orderStatusFromDashboard).getD current) = true ∧ db = db' := by
  have hdb := eq_of_reads within_internalValidate h
  simp only [InternalOrderWriteSerializer.validate, bind_eq_ok, require_eq_ok, pure_eq_ok] at h
  obtain ⟨_, _, -, _, _, -, _, _, -, ⟨date, time⟩, _, -, _, _, ⟨hst, -⟩, rfl, -⟩ := h
  exact ⟨⟨date, time, rfl⟩, hst, hdb⟩

/-- Inserting the row and saving it with its total recalculated is one insert. -/
theorem internalCreate_ok {data : InternalApi.OrderPayload} {o : Order}
    (h : InternalOrderWriteSerializer.create ctx data db = (.ok o, db')) :
    ∃ date time client service t,
      db.orders.insert?
          (newOrder ctx (attrsOf data date time) client service).recalculateTotal = some t ∧
        db' = { db with orders := t } ∧
        canAdminSetStatus .new ((data.status.map orderStatusFromDashboard).getD .new) = true := by
  simp only [InternalOrderWriteSerializer.create, createOrder, saveOrder, bind_eq_ok,
    fetch_eq_ok, require_eq_ok, modify_eq_ok, write_eq_ok, Option.map_eq_some_iff,
    pure_eq_ok] at h
  obtain ⟨attrs, _, hvalid, _, _, ⟨-, rfl⟩, _, _, ⟨-, rfl⟩, client, _, ⟨-, rfl⟩, service, _,
    ⟨-, rfl⟩, _, _, ⟨t, hins, rfl⟩, _, _, rfl, -, rfl⟩ := h
  obtain ⟨⟨date, time, rfl⟩, hst, rfl⟩ := internalValidate_ok hvalid
  exact ⟨date, time, client, service, _, Table.insert?_save hins rfl, rfl, hst⟩

theorem effect_internalCreate {data : InternalApi.OrderPayload} {o : Order}
    (h : InternalOrderWriteSerializer.create ctx data db = (.ok o, db')) :
    Effect cfg ctx db db' (.internalCreate data) := by
  obtain ⟨date, time, client, service, t, hins, rfl, hst⟩ := internalCreate_ok h
  exact .create (.internal hst) hins rfl rfl rfl

theorem effect_internalExpress {data : ExpressPayload} {o : Order}
    (h : OrderExpressCreateAPIView.post ctx data db = (.ok o, db')) :
    Effect cfg ctx db db' (.internalExpress data) := by
  simp only [OrderExpressCreateAPIView.post, bind_eq_ok, fetch_eq_ok] at h
  obtain ⟨client, db₁, hclient, _, _, ⟨-, rfl⟩, _, _, ⟨-, rfl⟩, h⟩ := h
  have hframe := within_getOrCreateClient _ _ _ hclient
  obtain ⟨date, time, client, service, t, hins, rfl, hst⟩ := internalCreate_ok h
  rw [hframe.orders] at hins
  exact .create (.internal hst) hins hframe.payme hframe.wallet hframe.journal

theorem effect_internalUpdate {pk : Uuid} {data : InternalApi.OrderPayload} {o : Order}
    (h : InternalOrderWriteSerializer.update ctx pk data db = (.ok o, db')) :
    Effect cfg ctx db db' (.internalUpdate pk data) := by
  simp only [InternalOrderWriteSerializer.update, saveOrder, bind_eq_ok, require_eq_ok,
    modify_eq_ok, pure_eq_ok] at h
  obtain ⟨o', _, hget, attrs, _, hvalid, _, _, ⟨-, rfl⟩, _, _, rfl, -, rfl⟩ := h
  obtain ⟨hfind, rfl, rfl⟩ := getOrder_ok hget
  obtain ⟨⟨date, time, rfl⟩, hst, rfl⟩ := internalValidate_ok hvalid
  exact .rewrite (.internalUpdate hst) hfind rfl rfl rfl rfl

theorem effect_internalAssign {pk : Uuid} {master : Option Uuid} {o : Order}
    (h : OrderAssignAPIView.patch pk master db = (.ok o, db')) :
    Effect cfg ctx db db' (.internalAssign pk master) := by
  cases master with
  | none =>
      simp only [OrderAssignAPIView.patch, saveOrder, bind_eq_ok, modify_eq_ok,
        pure_eq_ok] at h
      obtain ⟨o', _, hget, _, _, rfl, -, rfl⟩ := h
      obtain ⟨hfind, rfl, rfl⟩ := getOrder_ok hget
      exact .rewrite .internalAssign hfind rfl rfl rfl rfl
  | some id =>
      simp only [OrderAssignAPIView.patch, saveOrder, bind_eq_ok, fetch_eq_ok, require_eq_ok,
        modify_eq_ok, pure_eq_ok] at h
      obtain ⟨o', _, hget, _, _, ⟨-, rfl⟩, _, _, ⟨-, rfl⟩, _, _, rfl, -, rfl⟩ := h
      obtain ⟨hfind, rfl, rfl⟩ := getOrder_ok hget
      exact .rewrite .internalAssign hfind rfl rfl rfl rfl

end InternalViews

section Webhook

open PaymeWebHookAPIView

theorem requireKey_ok {α : Type} {key : String} {value : Option α} {a : α}
    (h : requireKey key value db = (.ok a, db')) : value = some a ∧ db = db' := by
  rw [requireKey, fetch_eq_ok] at h
  exact h

theorem fetchAccount_ok {account : List (String × Uuid)} {o : Order}
    (h : fetchAccount cfg account db = (.ok o, db')) :
    accountOrder cfg account = some o.id ∧ db.orders.find? o.id = some o ∧ db = db' := by
  simp only [fetchAccount, bind_eq_ok, fetch_eq_ok] at h
  obtain ⟨pk, _, ⟨hpk, rfl⟩, hfind, rfl⟩ := h
  obtain rfl := Table.key_of_find? hfind
  exact ⟨hpk, hfind, rfl⟩

theorem validateAmount_ok {o : Order} {amount : Option Int} {provided : Int}
    (h : validateAmount o amount db = (.ok provided, db')) :
    amount = some provided ∧ provided = orderAmountTiyin o ∧ db = db' := by
  simp only [validateAmount, bind_eq_ok, fetch_eq_ok, require_eq_ok, pure_eq_ok] at h
  obtain ⟨_, _, ⟨hsome, rfl⟩, _, _, ⟨hamount, rfl⟩, rfl, rfl⟩ := h
  exact ⟨hsome, hamount, rfl⟩

theorem lockedTx_ok {id : String} {tx : PaymeTransaction}
    (h : lockedTx id db = (.ok tx, db')) :
    tx.transactionId = id ∧ db.payme.find? tx.transactionId = some tx ∧ db = db' := by
  rw [lockedTx, fetch_eq_ok] at h
  obtain ⟨hfind, rfl⟩ := h
  obtain rfl : tx.transactionId = id := Table.key_of_find? hfind
  exact ⟨rfl, hfind, rfl⟩

/-- A transaction in state 1 is neither performed nor cancelled. -/
theorem PaymeTransaction.live_of_isInitiating {tx : PaymeTransaction}
    (h : tx.isInitiating = true) : tx.isPerformed = false ∧ tx.isCancelled = false := by
  have hst : tx.state = .initiating := by simpa [PaymeTransaction.isInitiating] using h
  simp [PaymeTransaction.isPerformed, PaymeTransaction.isCancelled, hst]

theorem createAgain_ok {r : Request} {o : Order} {amount : Int} {tx : PaymeTransaction}
    {tx? : Option PaymeTransaction} (hfind : db.payme.find? tx.transactionId = some tx)
    (h : createAgain ctx o amount tx db = (.ok tx?, db')) : Effect cfg ctx db db' r := by
  simp only [createAgain, savePayme, bind_eq_ok, require_eq_ok, ite_eq_ok, modify_eq_ok,
    pure_eq_ok] at h
  obtain ⟨_, _, ⟨-, rfl⟩, ⟨⟨hinit, hexp⟩, _, _, rfl, -, rfl⟩ | ⟨-, -, rfl⟩⟩ := h
  · obtain ⟨hperf, hcanc⟩ := PaymeTransaction.live_of_isInitiating hinit
    exact .payme (.expire hfind hperf hcanc hexp rfl)
  · exact .frame (.rfl _)

theorem createFresh_ok {params : Params} {o : Order} {amount : Int} {id : String}
    {tx? : Option PaymeTransaction} (hid : params.id = some id)
    (horder : params.orderId cfg = some o.id)
    (hparam : params.amount = some (some (orderAmountTiyin o)))
    (hnone : db.payme.find? id = none) (hfind : db.orders.find? o.id = some o)
    (hamount : amount = orderAmountTiyin o)
    (h : createFresh cfg ctx o amount id db = (.ok tx?, db')) :
    Effect cfg ctx db db' (.paymeCreate params) := by
  subst hamount
  have hrun : (cfg.paymeOneTimePayment = true → getActiveTransaction db o.id = none) ∧
      ∃ t, db.payme.insert?
        { transactionId := id, order := o.id, amount := orderAmountTiyin o
          state := .initiating, createdAt := ctx.now } = some t ∧
        db' = { db with payme := t } := by
    simp only [createFresh, createPayme, bind_eq_ok, get_eq_ok] at h
    obtain ⟨_, _, ⟨rfl, rfl⟩, h⟩ := h
    cases hactive : getActiveTransaction db o.id with
    | none =>
        simp only [hactive, bind_eq_ok, write_eq_ok, Option.map_eq_some_iff, pure_eq_ok] at h
        obtain ⟨_, _, ⟨t, hins, rfl⟩, -, rfl⟩ := h
        exact ⟨fun _ => rfl, t, hins, rfl⟩
    | some active =>
        simp only [hactive, bind_eq_ok, require_eq_ok, write_eq_ok, Option.map_eq_some_iff,
          pure_eq_ok] at h
        obtain ⟨_, _, ⟨hone, rfl⟩, _, _, ⟨t, hins, rfl⟩, -, rfl⟩ := h
        refine ⟨fun h => ?_, t, hins, rfl⟩
        rw [hone] at h
        cases h
  obtain ⟨hactive, t, hins, rfl⟩ := hrun
  exact .payme (.create hid horder hparam hnone hfind hactive hins rfl)

/-- The locked part of Create, whatever the request answers afterwards. -/
theorem effect_createLocked {params : Params} {o : Order} {amount : Int} {id : String}
    {tx? : Option PaymeTransaction} (hid : params.id = some id)
    (horder : params.orderId cfg = some o.id)
    (hparam : params.amount = some (some (orderAmountTiyin o)))
    (hfind : db.orders.find? o.id = some o) (hamount : amount = orderAmountTiyin o)
    (h : (do
      let db ← get
      match db.payme.find? id with
      | some tx => createAgain ctx o amount tx
      | none => createFresh cfg ctx o amount id : Code (Option PaymeTransaction)) db =
        (.ok tx?, db')) :
    Effect cfg ctx db db' (.paymeCreate params) := by
  simp only [bind_eq_ok, get_eq_ok] at h
  obtain ⟨_, _, ⟨rfl, rfl⟩, h⟩ := h
  cases htx : db.payme.find? id with
  | none =>
      rw [htx] at h
      exact createFresh_ok hid horder hparam htx hfind hamount h
  | some tx =>
      rw [htx] at h
      have hkey : tx.transactionId = id := Table.key_of_find? htx
      exact createAgain_ok (hkey ▸ htx) h

/-- Create commits its locked part even when it answers with an error. -/
theorem effect_paymeCreate {params : Params} {r : Except Error Result}
    (h : PaymeWebHookAPIView.createTransaction cfg ctx params db = (r, db')) :
    Effect cfg ctx db db' (.paymeCreate params) := by
  unfold PaymeWebHookAPIView.createTransaction at h
  obtain rfl | ⟨id, hid, h⟩ := bind_of_reads within_fetch h
  · exact .frame (.rfl _)
  obtain rfl | ⟨amount, hamount, h⟩ := bind_of_reads within_fetch h
  · exact .frame (.rfl _)
  obtain rfl | ⟨account, haccount, h⟩ := bind_of_reads within_fetch h
  · exact .frame (.rfl _)
  obtain rfl | ⟨o, hacc, h⟩ := bind_of_reads within_fetchAccount h
  · exact .frame (.rfl _)
  obtain rfl | ⟨provided, hval, h⟩ := bind_of_reads within_validateAmount h
  · exact .frame (.rfl _)
  obtain ⟨r', h⟩ := bind_reads (fun _ => within_createAnswer) h
  obtain rfl | ⟨tx?, h⟩ := atomic_cases h
  · exact .frame (.rfl _)
  · obtain ⟨horder, hfind, -⟩ := fetchAccount_ok hacc
    have hparams : params.orderId cfg = some o.id := by
      rw [Params.orderId, (requireKey_ok haccount).1]
      exact horder
    obtain ⟨hprovided, htotal, -⟩ := validateAmount_ok hval
    have hparam : params.amount = some (some (orderAmountTiyin o)) := by
      rw [(requireKey_ok hamount).1, hprovided, htotal]
    exact effect_createLocked (requireKey_ok hid).1 hparams hparam hfind htotal h

theorem effect_performLocked {params : Params} {id : String} {result? : Option Result}
    (hid : params.id = some id) (h : performLocked ctx id db = (.ok result?, db')) :
    Effect cfg ctx db db' (.paymePerform params) := by
  simp only [performLocked, savePayme, bind_eq_ok, fetch_eq_ok, ite_eq_ok, modify_eq_ok,
    pure_eq_ok, raise_ne_ok, and_false, false_or] at h
  obtain ⟨tx, _, hlock, h⟩ := h
  obtain ⟨rfl, hfind, rfl⟩ := lockedTx_ok hlock
  rcases h with ⟨-, -, rfl⟩ | ⟨hperf, hcanc, ⟨hexp, _, _, rfl, -, rfl⟩ | ⟨hexp, _, _, rfl, o, _,
    ⟨horder, rfl⟩, _, _, hpaid, -, rfl⟩⟩
  · exact .frame (.rfl _)
  · exact .payme (.expire hfind (by simpa using hperf) (by simpa using hcanc) hexp rfl)
  · have hid' : o.id = tx.order := Table.key_of_find? horder
    have hmarks := markOrderPaid_ok (hid' ▸ horder) hpaid
    exact .payme (.perform hid hfind (by simpa using hperf) (by simpa using hcanc)
      (by simpa using hexp) horder hmarks)

/-- Perform commits its locked part even when it answers with an error. -/
theorem effect_paymePerform {params : Params} {r : Except Error Result}
    (h : PaymeWebHookAPIView.performTransaction ctx params db = (r, db')) :
    Effect cfg ctx db db' (.paymePerform params) := by
  unfold PaymeWebHookAPIView.performTransaction at h
  obtain rfl | ⟨id, hid, h⟩ := bind_of_reads within_fetch h
  · exact .frame (.rfl _)
  obtain ⟨r', h⟩ := bind_reads (fun _ => within_performAnswer) h
  obtain rfl | ⟨result?, h⟩ := atomic_cases h
  · exact .frame (.rfl _)
  · exact effect_performLocked (requireKey_ok hid).1 h

theorem effect_paymeCancel {params : Params} {result : Result}
    (h : cancelTransaction ctx params db = (.ok result, db')) :
    Effect cfg ctx db db' (.paymeCancel params) := by
  simp only [cancelTransaction, cancelLocked, savePayme, atomic_eq_ok, bind_eq_ok, fetch_eq_ok,
    require_eq_ok, ite_eq_ok, modify_eq_ok, pure_eq_ok] at h
  obtain ⟨id, _, hkey, _, _, ⟨tx, _, hlock, h⟩, -, rfl⟩ := h
  obtain ⟨hid, rfl⟩ := requireKey_ok hkey
  obtain ⟨rfl, hfind, rfl⟩ := lockedTx_ok hlock
  rcases h with ⟨-, -, rfl⟩ | ⟨hcanc, ⟨hperf, o, _, ⟨horder, rfl⟩, _, _, ⟨hst, rfl⟩, _, _, rfl,
    _, _, hunmark, -, rfl⟩ | ⟨hperf, _, _, rfl, -, rfl⟩⟩
  · exact .frame (.rfl _)
  · have hid' : o.id = tx.order := Table.key_of_find? horder
    have hdb := markOrderPaymentCancelled_ok (hid' ▸ horder) hunmark
    exact .payme (.refund hid hfind hperf horder hst hdb)
  · exact .payme (.cancel hid hfind (by simpa using hperf) (by simpa using hcanc) rfl)

end Webhook

section WalletViews

theorem opened_of_getOrCreate {m : Uuid} {wallet : MasterWallet}
    (h : getOrCreateWallet m db = (.ok wallet, db')) :
    wallet = db.wallet.wallet m ∧
      ∃ w, db' = { db with wallet := w } ∧ Opened db.wallet w := by
  obtain ⟨hwallet, ws, rfl, -, hopen⟩ := getOrCreateWallet_ok h
  exact ⟨hwallet, _, rfl, hopen, rfl, rfl⟩

theorem effect_walletView {master : Uuid} {wallet : MasterWallet}
    (h : MasterWalletView.get master db = (.ok wallet, db')) :
    Effect cfg ctx db db' (.walletView master) := by
  obtain ⟨-, w, rfl, hopen⟩ := opened_of_getOrCreate h
  exact .wallet (.opened hopen rfl)

theorem effect_withdrawCreate {user : Uuid} {amount : Amount} {w : WithdrawRequest}
    (h : WithdrawRequestCreateView.performCreate ctx user amount db = (.ok w, db')) :
    Effect cfg ctx db db' (.withdrawCreate user amount) := by
  simp only [WithdrawRequestCreateView.performCreate, createWithdraw, atomic_eq_ok, bind_eq_ok,
    get_eq_ok, require_eq_ok, write_eq_ok, Option.map_eq_some_iff, pure_eq_ok] at h
  obtain ⟨_, _, hget, _, _, ⟨rfl, rfl⟩, _, _, ⟨hcover, rfl⟩, _, _, ⟨t, hins, rfl⟩, rfl, rfl⟩ := h
  obtain ⟨rfl, w, rfl, hopen⟩ := opened_of_getOrCreate hget
  have hpending : pendingWithdraw { db with wallet := w } user = pendingWithdraw db user :=
    congrArg (Table.sum · _) hopen.withdraws
  rw [hpending] at hcover
  rw [hopen.withdraws] at hins
  exact .wallet (.withdrawCreated hopen hcover hins rfl)

theorem effect_dashboardWithdrawCreate {master : Uuid} {amount : Amount}
    {status : Option WithdrawStatus} {adminNote : Option String} {w : WithdrawRequest}
    (h : DashboardWithdrawRequestListCreateAPIView.performCreate ctx master amount status
      adminNote db = (.ok w, db')) :
    Effect cfg ctx db db' (.dashboardWithdrawCreate master amount status adminNote) := by
  simp only [DashboardWithdrawRequestListCreateAPIView.performCreate, createWithdraw,
    atomic_eq_ok, bind_eq_ok, get_eq_ok, require_eq_ok, write_eq_ok, Option.map_eq_some_iff,
    pure_eq_ok] at h
  obtain ⟨_, _, hpk, _, _, hget, _, _, ⟨rfl, rfl⟩, _, _, ⟨hcover, rfl⟩, _, _, ⟨t, hins, rfl⟩,
    rfl, rfl⟩ := h
  obtain rfl := eq_of_reads within_requirePk hpk
  obtain ⟨rfl, w, rfl, hopen⟩ := opened_of_getOrCreate hget
  have hpending : pendingWithdraw { db with wallet := w } master = pendingWithdraw db master :=
    congrArg (Table.sum · _) hopen.withdraws
  rw [hpending] at hcover
  rw [hopen.withdraws] at hins
  exact .wallet (.dashboardWithdrawCreated hopen hcover hins rfl)

theorem effect_accept {r : Request} {pk : Uuid} {note : String} {b : Bool}
    (h : acceptCashHandover ctx pk note db = (.ok b, db')) : Effect cfg ctx db db' r := by
  rcases acceptCashHandover_ok h with rfl | ⟨w, w₁, hfind, hst, hposted, rfl⟩
  · exact .frame (.rfl _)
  · obtain rfl := Table.key_of_find? hfind
    exact .wallet (.accepted hfind hst hposted rfl)

theorem effect_reject {r : Request} {pk : Uuid} {note : String} {b : Bool}
    (h : rejectCashHandover pk note db = (.ok b, db')) : Effect cfg ctx db db' r := by
  rcases rejectCashHandover_ok h with rfl | ⟨w, hfind, hst, rfl⟩
  · exact .frame (.rfl _)
  · obtain rfl := Table.key_of_find? hfind
    exact .wallet (.rejected hfind hst rfl)

theorem effect_dashboardWithdrawUpdate {pk : Uuid} {data : WithdrawPayload} {u : Unit}
    (h : DashboardWithdrawRequestDetailAPIView.performUpdate ctx pk data db = (.ok u, db')) :
    Effect cfg ctx db db' (.dashboardWithdrawUpdate pk data) := by
  simp only [DashboardWithdrawRequestDetailAPIView.performUpdate, saveWithdraw, bind_eq_ok,
    fetch_eq_ok, require_eq_ok, ite_eq_ok, modify_eq_ok, pure_eq_ok] at h
  obtain ⟨w, _, ⟨hfind, rfl⟩, _, _, hpk, h⟩ := h
  obtain rfl := Table.key_of_find? hfind
  obtain rfl := eq_of_reads within_requirePk hpk
  rcases h with ⟨-, b, _, hacc, -, rfl⟩ | ⟨hacc, ⟨-, b, _, hrej, -, rfl⟩ | ⟨hrej, _, _,
    ⟨hamount, rfl⟩, rfl⟩⟩
  · exact effect_accept hacc
  · exact effect_reject hrej
  · exact .wallet (.saved hfind hacc hrej hamount rfl)

theorem effect_dashboardWithdrawDestroy {pk : Uuid} {u : Unit}
    (h : DashboardWithdrawRequestDetailAPIView.performDestroy pk db = (.ok u, db')) :
    Effect cfg ctx db db' (.dashboardWithdrawDestroy pk) := by
  simp only [DashboardWithdrawRequestDetailAPIView.performDestroy, deleteWithdraw, bind_eq_ok,
    fetch_eq_ok, require_eq_ok, modify_eq_ok] at h
  obtain ⟨w, _, ⟨hfind, rfl⟩, _, _, ⟨hst, rfl⟩, rfl⟩ := h
  obtain rfl := Table.key_of_find? hfind
  exact .wallet (.destroyed hfind hst rfl)

theorem effect_transactionCreate {data : TransactionPayload} {row : WalletTransaction}
    (h : DashboardWalletTransactionListCreateAPIView.performCreate ctx data db = (.ok row, db')) :
    Effect cfg ctx db db' (.transactionCreate data) := by
  simp only [DashboardWalletTransactionListCreateAPIView.performCreate, bind_eq_ok] at h
  obtain ⟨_, _, hpk, _, _, hpk', hpost⟩ := h
  obtain rfl := eq_of_reads within_requirePk hpk
  obtain rfl := eq_of_reads within_requirePk hpk'
  obtain ⟨-, w, rfl, hposted⟩ := postWalletTransaction_ok hpost
  exact .wallet (.posted hposted rfl)

theorem effect_transactionUpdate {pk : Uuid} {data : TransactionPatch} {u : Unit}
    (h : DashboardWalletTransactionDetailAPIView.performUpdate pk data db = (.ok u, db')) :
    Effect cfg ctx db db' (.transactionUpdate pk data) := by
  simp only [DashboardWalletTransactionDetailAPIView.performUpdate, saveTransaction, bind_eq_ok,
    fetch_eq_ok, require_eq_ok, modify_eq_ok] at h
  obtain ⟨txn, _, ⟨hfind, rfl⟩, _, _, hpk, _, _, hpk', _, _, ⟨-, rfl⟩, _, _, ⟨-, rfl⟩, _, _,
    ⟨-, rfl⟩, _, _, ⟨-, rfl⟩, _, _, ⟨-, rfl⟩, rfl⟩ := h
  obtain rfl := Table.key_of_find? hfind
  obtain rfl := eq_of_reads within_requirePk hpk
  obtain rfl := eq_of_reads within_requirePk hpk'
  exact .wallet (.described hfind rfl)

theorem effect_transactionDestroy {pk : Uuid} {u : Unit}
    (h : DashboardWalletTransactionDetailAPIView.performDestroy pk db = (.ok u, db')) :
    Effect cfg ctx db db' (.transactionDestroy pk) := by
  simp only [DashboardWalletTransactionDetailAPIView.performDestroy, deleteTransaction,
    bind_eq_ok, fetch_eq_ok, modify_eq_ok] at h
  obtain ⟨txn, _, ⟨hfind, rfl⟩, _, _, hrev, rfl⟩ := h
  obtain rfl := Table.key_of_find? hfind
  obtain ⟨w, rfl, hreversed⟩ := reverseWalletTransaction_ok hrev
  refine .wallet (.deleted hfind hreversed ?_)
  simp only [hreversed.transactions, key_walletTransaction]

end WalletViews

/-- A view that fails and is not Create or Perform changes nothing here. -/
theorem effect_of_error {r : Request} {e : Error}
    (hcreate : ∀ params, r ≠ .paymeCreate params)
    (hperform : ∀ params, r ≠ .paymePerform params)
    (h : view cfg ctx r db = (.error e, db')) : Effect cfg ctx db db' r :=
  .frame (clean_view hcreate hperform db e db' h)

theorem effect_of_ok {r : Request} {response : Response}
    (hcreate : ∀ params, r ≠ .paymeCreate params)
    (hperform : ∀ params, r ≠ .paymePerform params)
    (h : view cfg ctx r db = (.ok response, db')) : Effect cfg ctx db db' r := by
  cases r with
  | clientCreate user data => exact effect_clientCreate (map_eq_ok.mp h).choose_spec.1
  | clientCancel user pk reason => exact effect_clientCancel (map_eq_ok.mp h).choose_spec.1
  | clientPay user pk method => exact effect_clientPay (map_eq_ok.mp h).choose_spec.1
  | masterAccept user pk => exact effect_masterAccept (map_eq_ok.mp h).choose_spec.1
  | masterOnWay user pk => exact effect_masterOnWay (map_eq_ok.mp h).choose_spec.1
  | masterStart user pk => exact effect_masterStart (map_eq_ok.mp h).choose_spec.1
  | masterReject user pk reason => exact effect_masterReject (map_eq_ok.mp h).choose_spec.1
  | masterComplete user pk data => exact effect_masterComplete (map_eq_ok.mp h).choose_spec.1
  | masterReceiptConfirm user pk =>
      exact effect_masterReceiptConfirm (map_eq_ok.mp h).choose_spec.1
  | useInventory user pk data => exact effect_useInventory (map_eq_ok.mp h).choose_spec.1
  | dashboardCreate data => exact effect_dashboardCreate (map_eq_ok.mp h).choose_spec.1
  | dashboardUpdate pk data => exact effect_dashboardUpdate (map_eq_ok.mp h).choose_spec.1
  | dashboardStatus pk data => exact effect_dashboardStatus (map_eq_ok.mp h).choose_spec.1
  | dashboardAssign admin pk data =>
      exact .frame (within_dashboardAssign _ _ _ (map_eq_ok.mp h).choose_spec.1)
  | internalCreate data => exact effect_internalCreate (map_eq_ok.mp h).choose_spec.1
  | internalExpress data => exact effect_internalExpress (map_eq_ok.mp h).choose_spec.1
  | internalUpdate pk data => exact effect_internalUpdate (map_eq_ok.mp h).choose_spec.1
  | internalAssign pk master => exact effect_internalAssign (map_eq_ok.mp h).choose_spec.1
  | paymeCheckPerform params =>
      exact .frame (within_checkPerform _ _ _ (map_eq_ok.mp h).choose_spec.1)
  | paymeCreate params => exact absurd rfl (hcreate params)
  | paymePerform params => exact absurd rfl (hperform params)
  | paymeCancel params => exact effect_paymeCancel (map_eq_ok.mp h).choose_spec.1
  | paymeCheck params =>
      exact .frame (within_checkTransaction _ _ _ (map_eq_ok.mp h).choose_spec.1)
  | paymeStatement params =>
      exact .frame (within_getStatement _ _ _ (map_eq_ok.mp h).choose_spec.1)
  | walletView master => exact effect_walletView (map_eq_ok.mp h).choose_spec.1
  | withdrawCreate user amount => exact effect_withdrawCreate (map_eq_ok.mp h).choose_spec.1
  | dashboardWithdrawCreate master amount status adminNote =>
      exact effect_dashboardWithdrawCreate (map_eq_ok.mp h).choose_spec.1
  | dashboardWithdrawUpdate pk data =>
      exact effect_dashboardWithdrawUpdate (map_eq_ok.mp h).choose_spec.1
  | dashboardWithdrawDestroy pk =>
      exact effect_dashboardWithdrawDestroy (map_eq_ok.mp h).choose_spec.1
  | handoverAccept pk note =>
      obtain ⟨b, h, -⟩ := map_eq_ok.mp h
      obtain ⟨_, _, hfetch, h⟩ := bind_eq_ok.mp h
      obtain rfl := eq_of_reads within_fetch hfetch
      exact effect_accept h
  | handoverReject pk note =>
      obtain ⟨b, h, -⟩ := map_eq_ok.mp h
      obtain ⟨_, _, hfetch, h⟩ := bind_eq_ok.mp h
      obtain rfl := eq_of_reads within_fetch hfetch
      exact effect_reject h
  | transactionCreate data => exact effect_transactionCreate (map_eq_ok.mp h).choose_spec.1
  | transactionUpdate pk data => exact effect_transactionUpdate (map_eq_ok.mp h).choose_spec.1
  | transactionDestroy pk => exact effect_transactionDestroy (map_eq_ok.mp h).choose_spec.1
  | stock request => exact .frame (within_stock request _ _ _ h)

/-- Rendering an error does not touch the database. -/
theorem handle_snd (cfg : Settings) (ctx : Context) (r : Request) (db : DB) :
    (handle cfg ctx r db).2 = (view cfg ctx r db).2 := by
  unfold handle
  rcases view cfg ctx r db with ⟨_ | _, _⟩
  · rfl
  · rfl

theorem handle_of_ok {r : Request} {response : Response}
    (h : view cfg ctx r db = (.ok response, db')) : handle cfg ctx r db = (.ok response, db') := by
  unfold handle
  rw [h]

theorem handle_of_error {r : Request} {e : Error} (h : view cfg ctx r db = (.error e, db')) :
    handle cfg ctx r db = (.error (renderError r e), db') := by
  unfold handle
  rw [h]

/-- A request that is answered without an error ran through. -/
theorem view_of_handle_ok {r : Request} {response : Response}
    (h : (handle cfg ctx r db).1 = .ok response) :
    view cfg ctx r db = (.ok response, (handle cfg ctx r db).2) := by
  unfold handle at h ⊢
  rcases hview : view cfg ctx r db with ⟨e | a, s⟩
  · rw [hview] at h
    cases h
  · rw [hview] at h
    cases h
    rfl

/-- A request that is answered with an error failed. -/
theorem view_of_handle_error {r : Request} {e : Error}
    (h : (handle cfg ctx r db).1 = .error e) :
    ∃ e', view cfg ctx r db = (.error e', (handle cfg ctx r db).2) := by
  unfold handle at h ⊢
  rcases hview : view cfg ctx r db with ⟨e' | a, s⟩
  · exact ⟨e', rfl⟩
  · rw [hview] at h
    cases h

/-- The protocol's own errors are answered as they are. -/
theorem handle_of_paymeError {r : Request} {error : PaymeError} {data : String}
    (h : view cfg ctx r db = (.error (.payme error data), db')) :
    handle cfg ctx r db = (.error (.payme error data), db') :=
  handle_of_error h

/-- Every request has an effect. -/
theorem effect_handle (cfg : Settings) (ctx : Context) (r : Request) (db : DB) :
    Effect cfg ctx db (handle cfg ctx r db).2 r := by
  rw [handle_snd]
  by_cases hcreate : ∃ params, r = .paymeCreate params
  · obtain ⟨params, rfl⟩ := hcreate
    rw [view, map_snd]
    exact effect_paymeCreate rfl
  by_cases hperform : ∃ params, r = .paymePerform params
  · obtain ⟨params, rfl⟩ := hperform
    rw [view, map_snd]
    exact effect_paymePerform rfl
  rcases h : view cfg ctx r db with ⟨e | response, db'⟩
  · exact effect_of_error (not_exists.mp hcreate) (not_exists.mp hperform) h
  · exact effect_of_ok (not_exists.mp hcreate) (not_exists.mp hperform) h

end Homex
