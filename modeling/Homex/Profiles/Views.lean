import Homex.Orders.Views
import Homex.Relational.Part
import Mathlib.Data.List.Infix

/-!
# The addresses, devices and orders of a client

The client endpoints for addresses and devices, and what they and the order
endpoints answer. Each finds the rows of its list, or of its URL, among those of
the client who is logged in. A payload may name other rows: the `address` of a
device and of an order is looked up among the addresses of all clients.

Deleting an address deletes the devices at it, and an order is left without the
address or the device that is deleted.
-/

namespace Homex

open Relational Orders Profiles

namespace Profiles

open Action Code

/-- How the database compares texts: `UPPER`, and the order of its collation. -/
structure Collation where
  upper : String → String
  le : String → String → Bool

/-- `icontains`. -/
def Collation.icontains (c : Collation) (text part : String) : Bool :=
  decide ((c.upper part).toList <:+: (c.upper text).toList)

/-- The rows of a table that a condition selects, the newest first. -/
def newest {ρ κ : Type} [Keyed ρ κ] (t : Table ρ) (p : ρ → Bool) : List ρ :=
  (t.restrict p).rows.reverse

/-! ### What the serializers answer -/

/-- `get_last_order`. -/
structure LastOrder where
  id : Uuid
  status : OrderStatus
  scheduledDate : Int
  scheduledTime : Int
  totalAmount : Int

def LastOrder.of (order : Order) : LastOrder where
  id := order.id
  status := order.status
  scheduledDate := order.scheduledDate
  scheduledTime := order.scheduledTime
  totalAmount := order.totalAmount

/-- The fields of `ClientDeviceSerializer`. -/
structure DeviceData where
  device : ClientDevice
  addressDetail : Option ClientAddress
  orderCount : Nat
  lastOrder : Option LastOrder

/-- `obj.orders`. -/
def deviceOrders (db : DB) (device : ClientDevice) : List Order :=
  newest db.orders fun order => order.device = some device.id

def ClientDeviceSerializer.data (db : DB) (device : ClientDevice) : DeviceData where
  device := device
  addressDetail := db.addresses.find? device.address
  orderCount := (deviceOrders db device).length
  lastOrder := (deviceOrders db device).head?.map LastOrder.of

/-- The row of an order and its `device_detail`. -/
structure OrderData where
  order : Order
  deviceDetail : Option DeviceData

/-- `get_device_detail`. -/
def deviceDetail (db : DB) (order : Order) : Option DeviceData :=
  (order.device.bind fun pk => db.devices.find? pk).map (ClientDeviceSerializer.data db)

def OrderSerializer.data (db : DB) (order : Order) : OrderData where
  order := order
  deviceDetail := deviceDetail db order

/-! ### Addresses -/

/-- The fields of a new address. -/
structure AddressPayload where
  label : String
  addressText : String
  lat : Int
  lng : Int
  isDefault : Bool := false

/-- The fields of a `PUT`, all of them, or of a `PATCH`. -/
structure AddressUpdate where
  label : Option String := none
  addressText : Option String := none
  lat : Option Int := none
  lng : Option Int := none
  isDefault : Option Bool := none

/-- `ordering = ("-is_default", "label")`. -/
def addressOrder (c : Collation) (a b : ClientAddress) : Bool :=
  if a.isDefault = b.isDefault then c.le a.label b.label else a.isDefault

def clientAddresses (c : Collation) (user : Uuid) (db : DB) : List ClientAddress :=
  (db.addresses.restrict fun a => a.client = user).rows.mergeSort (addressOrder c)

/-- The address of a client, or 404. -/
def getAddress (user pk : Uuid) : Code ClientAddress :=
  fetch (fun db => (db.addresses.find? pk).filter fun a => a.client = user)
    (.notFound "ClientAddress")

/-- `is_default=False`, for the addresses of a client. -/
def unsetDefault (user : Uuid) (a : ClientAddress) : ClientAddress :=
  { a with isDefault := if a.client = user then false else a.isDefault }

theorem key_unsetDefault (user : Uuid) (a : ClientAddress) :
    key (unsetDefault user a) = key a := rfl

/-- `filter(client=user).update(is_default=False)`. -/
def clearDefault (user : Uuid) (db : DB) : DB :=
  { db with addresses := db.addresses.mapRows (unsetDefault user) (key_unsetDefault user) }

def ClientAddressListCreateView.get (c : Collation) (user : Uuid) : Code (List ClientAddress) := do
  let db ← Action.get
  pure (clientAddresses c user db)

/-- The old defaults are cleared before the new address is saved. -/
def ClientAddressListCreateView.post (ctx : Context) (user : Uuid) (data : AddressPayload) :
    Code ClientAddress := do
  if data.isDefault = true then
    modify (clearDefault user)
  let address : ClientAddress :=
    { id := ctx.uuid .address, client := user, label := data.label
      addressText := data.addressText, lat := data.lat, lng := data.lng
      isDefault := data.isDefault }
  createAddress address
  pure address

def AddressUpdate.apply (data : AddressUpdate) (address : ClientAddress) : ClientAddress :=
  { address with
      label := data.label.getD address.label
      addressText := data.addressText.getD address.addressText
      lat := data.lat.getD address.lat
      lng := data.lng.getD address.lng
      isDefault := data.isDefault.getD address.isDefault }

def ClientAddressDetailView.update (user pk : Uuid) (data : AddressUpdate) :
    Code ClientAddress := do
  let address ← getAddress user pk
  modify fun db => { db with addresses := db.addresses.save (data.apply address) }
  pure (data.apply address)

/-- `on_delete=SET_NULL` of `Order.device`. -/
def forgetDevices (gone : Uuid → Bool) (order : Order) : Order :=
  { order with device := order.device.filter fun pk => !gone pk }

theorem key_forgetDevices (gone : Uuid → Bool) (order : Order) :
    key (forgetDevices gone order) = key order := rfl

theorem forgetDevices_congr {gone gone' : Uuid → Bool} {order : Order}
    (h : ∀ pk ∈ order.device, gone pk = gone' pk) :
    forgetDevices gone order = forgetDevices gone' order := by
  unfold forgetDevices
  cases hdevice : order.device with
  | none => rfl
  | some pk => rw [Option.filter_some, Option.filter_some, h pk hdevice]

theorem forgetDevices_eq_self {gone : Uuid → Bool} {order : Order}
    (h : ∀ pk ∈ order.device, gone pk = false) : forgetDevices gone order = order := by
  unfold forgetDevices
  cases hdevice : order.device with
  | none => rw [Option.filter_none, ← hdevice]
  | some pk =>
      rw [Option.filter_some, h pk hdevice, ← hdevice]
      rfl

/-- `on_delete=SET_NULL` of `Order.address`. -/
def forgetAddress (pk : Uuid) (order : Order) : Order :=
  { order with address := order.address.filter fun address => address ≠ pk }

theorem key_forgetAddress (pk : Uuid) (order : Order) :
    key (forgetAddress pk order) = key order := rfl

theorem forgetAddress_eq_self {pk : Uuid} {order : Order} (h : pk ∉ order.address) :
    forgetAddress pk order = order := by
  unfold forgetAddress
  cases haddress : order.address with
  | none => rw [Option.filter_none, ← haddress]
  | some pk' =>
      have hne : pk' ≠ pk := by
        rintro rfl
        exact h haddress
      rw [Option.filter_some, if_pos (decide_eq_true hne), ← haddress]

/-- `DELETE` of devices: their orders stay, without a device. -/
def deleteDevices (gone : ClientDevice → Bool) (db : DB) : DB :=
  { db with
      devices := db.devices.restrict fun d => !gone d
      orders := db.orders.mapRows
        (forgetDevices fun pk => (db.devices.find? pk).any gone) (key_forgetDevices _) }

/-- `DELETE` of an address, which its orders forget. -/
def dropAddress (pk : Uuid) (db : DB) : DB :=
  { db with
      addresses := db.addresses.delete pk
      orders := db.orders.mapRows (forgetAddress pk) (key_forgetAddress pk) }

/-- `DELETE` of an address and of the devices at it. -/
def deleteAddress (pk : Uuid) (db : DB) : DB :=
  dropAddress pk (deleteDevices (fun d => d.address = pk) db)

def ClientAddressDetailView.delete (user pk : Uuid) : Code Unit := do
  let address ← getAddress user pk
  modify (deleteAddress address.id)

/-! ### Devices -/

/-- The fields of a new device. -/
structure DevicePayload where
  name : String
  model : String := ""
  image : Option String := none
  address : Uuid
  status : DeviceStatus := .active

/-- The fields of a `PUT`, all of them, or of a `PATCH`. -/
structure DeviceUpdate where
  name : Option String := none
  model : Option String := none
  image : Option (Option String) := none
  address : Option Uuid := none
  status : Option DeviceStatus := none

/-- The device of a client, or 404. -/
def getDevice (user pk : Uuid) : Code ClientDevice :=
  fetch (fun db => (db.devices.find? pk).filter fun d => d.client = user)
    (.notFound "ClientDevice")

/-- The devices of a client, at an address and with a label of the address. -/
def clientDevices (c : Collation) (user : Uuid) (addressId : Option Uuid) (label : String)
    (db : DB) : List DeviceData :=
  (newest db.devices fun d =>
    decide (d.client = user) && addressId.all (fun pk => decide (d.address = pk)) &&
      (decide (label = "") ||
        (db.addresses.find? d.address).any fun a => c.icontains a.label label)).map
    (ClientDeviceSerializer.data db)

def ClientDeviceListCreateView.get (c : Collation) (user : Uuid) (addressId : Option Uuid)
    (label : String) : Code (List DeviceData) := do
  let db ← Action.get
  pure (clientDevices c user addressId label db)

def ClientDeviceListCreateView.post (ctx : Context) (user : Uuid) (data : DevicePayload) :
    Code DeviceData := do
  requirePk DB.addresses "address" (some data.address)
  let device : ClientDevice :=
    { id := ctx.uuid .device, client := user, name := data.name, model := data.model
      image := data.image, address := data.address, status := data.status }
  createDevice device
  let db ← Action.get
  pure (ClientDeviceSerializer.data db device)

/-- The addresses of a client, the default first, with the number of devices at each. -/
def deviceLocations (c : Collation) (user : Uuid) (db : DB) : List (ClientAddress × Nat) :=
  (clientAddresses c user db).map fun a => (a, db.devices.count fun d => d.address = a.id)

def ClientDeviceLocationsView.get (c : Collation) (user : Uuid) :
    Code (List (ClientAddress × Nat)) := do
  let db ← Action.get
  pure (deviceLocations c user db)

def ClientDeviceDetailView.get (user pk : Uuid) : Code DeviceData := do
  let device ← getDevice user pk
  let db ← Action.get
  pure (ClientDeviceSerializer.data db device)

def DeviceUpdate.apply (data : DeviceUpdate) (device : ClientDevice) : ClientDevice :=
  { device with
      name := data.name.getD device.name
      model := data.model.getD device.model
      image := data.image.getD device.image
      address := data.address.getD device.address
      status := data.status.getD device.status }

def ClientDeviceDetailView.update (user pk : Uuid) (data : DeviceUpdate) : Code DeviceData := do
  let device ← getDevice user pk
  requirePk DB.addresses "address" data.address
  modify fun db => { db with devices := db.devices.save (data.apply device) }
  let db ← Action.get
  pure (ClientDeviceSerializer.data db (data.apply device))

def ClientDeviceDetailView.delete (user pk : Uuid) : Code Unit := do
  let device ← getDevice user pk
  modify (deleteDevices fun d => d.id = device.id)

/-- The device, and the address that prefills an order. -/
def ClientDeviceOrderView.post (user pk : Uuid) : Code (DeviceData × Option ClientAddress) := do
  let device ← getDevice user pk
  let db ← Action.get
  pure (ClientDeviceSerializer.data db device, db.addresses.find? device.address)

/-! ### Orders -/

def ClientOrderListCreateView.get (user : Uuid) (status : Option OrderStatus) :
    Code (List OrderData) := do
  let db ← Action.get
  pure ((newest db.orders fun order =>
    decide (order.client = user) && status.all fun s => decide (order.status = s)).map
    (OrderSerializer.data db))

def ClientRecentOrdersView.get (user : Uuid) : Code (List OrderData) := do
  let db ← Action.get
  pure (((newest db.orders fun order => order.client = user).take 5).map (OrderSerializer.data db))

def ClientOrderDetailView.get (user pk : Uuid) : Code OrderData := do
  let order ← getClientOrder pk user
  let db ← Action.get
  pure (OrderSerializer.data db order)

end Profiles

/-- The requests of a client about addresses, devices and orders. -/
inductive ClientRequest
  | addressList
  | addressCreate (data : AddressPayload)
  | addressGet (pk : Uuid)
  | addressUpdate (pk : Uuid) (data : AddressUpdate)
  | addressDelete (pk : Uuid)
  | deviceList (addressId : Option Uuid) (label : String)
  | deviceCreate (data : DevicePayload)
  | deviceLocations
  | deviceGet (pk : Uuid)
  | deviceUpdate (pk : Uuid) (data : DeviceUpdate)
  | deviceDelete (pk : Uuid)
  | deviceOrder (pk : Uuid)
  | orderList (status : Option OrderStatus)
  | orderRecent
  | orderCreate (data : OrderPayload)
  | orderGet (pk : Uuid)
  | orderCancel (pk : Uuid) (reason : String)
  | orderPay (pk : Uuid) (method : PaymentMethodField)

/-- What they are answered. -/
inductive ClientResponse
  | addresses (rows : List ClientAddress)
  | address (row : ClientAddress)
  | devices (rows : List DeviceData)
  | device (row : DeviceData)
  | locations (rows : List (ClientAddress × Nat))
  | prefill (device : DeviceData) (address : Option ClientAddress)
  | orders (rows : List OrderData)
  | order (row : OrderData)
  | paymentUrl (order : Uuid) (method : PaymentType)
  | deleted

namespace ClientResponse

/-- `OrderSerializer(order).data`, of an order that a view returns. -/
def ofOrder (o : Order) : Code ClientResponse := do
  let db ← Action.get
  pure (.order (Profiles.OrderSerializer.data db o))

def ofPay : PayResponse → Code ClientResponse
  | .completed o => ofOrder o
  | .paymentUrl pk method => pure (.paymentUrl pk method)

end ClientResponse

open ClientResponse in
/-- The view of each request, for the client who is logged in. -/
def ClientRequest.handle (c : Collation) (ctx : Context) (user : Uuid) :
    ClientRequest → Code ClientResponse
  | .addressList => .addresses <$> ClientAddressListCreateView.get c user
  | .addressCreate data => .address <$> ClientAddressListCreateView.post ctx user data
  | .addressGet pk => .address <$> getAddress user pk
  | .addressUpdate pk data => .address <$> ClientAddressDetailView.update user pk data
  | .addressDelete pk => (fun _ => .deleted) <$> ClientAddressDetailView.delete user pk
  | .deviceList addressId label =>
      .devices <$> ClientDeviceListCreateView.get c user addressId label
  | .deviceCreate data => .device <$> ClientDeviceListCreateView.post ctx user data
  | .deviceLocations => .locations <$> ClientDeviceLocationsView.get c user
  | .deviceGet pk => .device <$> ClientDeviceDetailView.get user pk
  | .deviceUpdate pk data => .device <$> ClientDeviceDetailView.update user pk data
  | .deviceDelete pk => (fun _ => .deleted) <$> ClientDeviceDetailView.delete user pk
  | .deviceOrder pk => (fun d => .prefill d.1 d.2) <$> ClientDeviceOrderView.post user pk
  | .orderList status => .orders <$> Profiles.ClientOrderListCreateView.get user status
  | .orderRecent => .orders <$> ClientRecentOrdersView.get user
  | .orderCreate data => Orders.ClientOrderListCreateView.post ctx user data >>= ofOrder
  | .orderGet pk => .order <$> ClientOrderDetailView.get user pk
  | .orderCancel pk reason => ClientOrderCancelView.post user pk reason >>= ofOrder
  | .orderPay pk method => ClientOrderPayView.post ctx user pk method >>= ofPay

end Homex
