import Homex.Encoding.Base64
import Homex.Encoding.Fields
import Homex.Payme.FiscalItems

/-!
# The checkout link

`PaymeCheckoutUrlView` answers with a link that has the parameters of a payment as
one segment: pairs with separators between them, in base64. The client's return
URL and language are among them as they are. A text with a separator in it reads
as more parameters, unlike in the form, where each has its own field. And base64
has the slash among its digits, which cuts a path into segments.
-/

namespace Homex

namespace Payme

open Relational Action Code Orders Encoding

/-- The settings of the checkout. -/
structure CheckoutSettings where
  paymeMerchantId : String := ""
  paymeTestMode : Bool := false
  paymeCheckoutUrl : String := ""
  paymeAccountField : String := "order_id"
  paymeReturnDeeplink : String := "homex://payment/result"
  paymeCheckoutLang : String := "uz"

/-- `str` of a `UUID`: 32 hexadecimal digits in five groups. -/
def uuidText (id : Uuid) : String :=
  let hex := (List.range 32).map fun i => Nat.digitChar (id / 16 ^ (31 - i) % 16)
  String.ofList (hex.take 8 ++ '-' :: ((hex.drop 8).take 4 ++ '-' :: ((hex.drop 12).take 4 ++
    '-' :: ((hex.drop 16).take 4 ++ '-' :: hex.drop 20))))

namespace Initializer

/-- `_base_url`. -/
def baseUrl (cfg : CheckoutSettings) : String :=
  if cfg.paymeCheckoutUrl ≠ "" then
    String.ofList ((cfg.paymeCheckoutUrl.toList.reverse.dropWhile (· = '/')).reverse)
  else if cfg.paymeTestMode then "https://test.paycom.uz"
  else "https://checkout.paycom.uz"

/-- The parameters of a link. -/
def params (cfg : CheckoutSettings) (accountId : String) (amount : Int) (returnUrl lang : String) :
    String :=
  "m=" ++ cfg.paymeMerchantId ++ ";ac." ++ cfg.paymeAccountField ++ "=" ++ accountId ++ ";a=" ++
    toString amount ++ ";c=" ++ returnUrl ++ ";l=" ++ lang

/-- `params.encode("utf-8")`. -/
def utf8 (text : String) : List UInt8 := text.toUTF8.data.toList

/-- `generate_pay_link`. -/
def generatePayLink (cfg : CheckoutSettings) (accountId : String) (amount : Int)
    (returnUrl lang : String) : String :=
  baseUrl cfg ++ "/" ++
    String.ofList (Base64.encode (utf8 (params cfg accountId amount returnUrl lang)))

end Initializer

/-- The texts of the request, if any. -/
structure CheckoutPayload where
  returnUrl : Option String := none
  lang : Option String := none

/-- `value or default`. -/
def orDefault (value : Option String) (default : String) : String :=
  if value.getD "" = "" then default else value.getD ""

/-- What the view answers; the form for a POST has the same parameters, each in a field of
its own. -/
structure CheckoutResponse where
  orderId : Uuid
  amount : Int
  checkoutUrl : String

def CheckoutPayload.returnUrlOf (cfg : CheckoutSettings) (data : CheckoutPayload) : String :=
  orDefault data.returnUrl cfg.paymeReturnDeeplink

def CheckoutPayload.langOf (cfg : CheckoutSettings) (data : CheckoutPayload) : String :=
  orDefault data.lang cfg.paymeCheckoutLang

namespace PaymeCheckoutUrlView

def answer (cfg : CheckoutSettings) (orderId : Uuid) (order : Order) (data : CheckoutPayload) :
    CheckoutResponse where
  orderId := orderId
  amount := orderAmountTiyin order
  checkoutUrl := Initializer.generatePayLink cfg (uuidText orderId) (orderAmountTiyin order)
    (data.returnUrlOf cfg) (data.langOf cfg)

def post (cfg : CheckoutSettings) (user orderId : Uuid) (data : CheckoutPayload) :
    Code CheckoutResponse := do
  let order ← fetch (fun db => (db.orders.find? orderId).filter fun order => order.client = user)
    (.notFound "Order")
  require (0 < orderAmountTiyin order)
    (.validation none "Buyurtma summasi 0 — to'lov havolasi yaratib bo'lmaydi.")
  pure (answer cfg orderId order data)

end PaymeCheckoutUrlView

/-! ### Reading a link -/

/-- The text in a segment. -/
def decodeText (segment : List Char) : Option String :=
  (Base64.decode segment).bind fun bytes => String.fromUTF8? ⟨bytes.toArray⟩

/-- The pairs, as strings. -/
def ofFields (fields : List (List Char × List Char)) : List (String × String) :=
  fields.map fun (key, value) => (String.ofList key, String.ofList value)

def toFields (pairs : List (String × String)) : List (List Char × List Char) :=
  pairs.map fun (key, value) => (key.toList, value.toList)

/-- The parameters in a segment: the text split at each `;`, and each part at its first `=`. -/
def readParams (segment : List Char) : Option (List (String × String)) :=
  (decodeText segment).bind fun text => (splitFields ';' '=' text.toList).map ofFields

/-- The five pairs a link is to have. -/
def linkPairs (cfg : CheckoutSettings) (accountId : String) (amount : Int)
    (returnUrl lang : String) : List (String × String) :=
  [("m", cfg.paymeMerchantId), ("ac." ++ cfg.paymeAccountField, accountId),
    ("a", toString amount), ("c", returnUrl), ("l", lang)]

/-- The pairs that the link of an answer is to have. -/
def CheckoutResponse.pairs (cfg : CheckoutSettings) (data : CheckoutPayload)
    (response : CheckoutResponse) : List (String × String) :=
  linkPairs cfg (uuidText response.orderId) response.amount (data.returnUrlOf cfg)
    (data.langOf cfg)

/-- No text that goes into the parameters has a separator. -/
structure Separable (cfg : CheckoutSettings) (returnUrl lang : String) : Prop where
  merchantId : ';' ∉ cfg.paymeMerchantId.toList
  accountField : ';' ∉ cfg.paymeAccountField.toList ∧ '=' ∉ cfg.paymeAccountField.toList
  returnUrl : ';' ∉ returnUrl.toList
  lang : ';' ∉ lang.toList

section Texts

theorem digitChar_mod_ne (n : Nat) : Nat.digitChar (n % 16) ≠ ';' := by
  have hlt : n % 16 < 16 := Nat.mod_lt _ (by decide)
  generalize n % 16 = d at hlt
  revert d
  decide

theorem not_mem_uuidText (id : Uuid) : ';' ∉ (uuidText id).toList := by
  have hhex : ';' ∉ (List.range 32).map fun i => Nat.digitChar (id / 16 ^ (31 - i) % 16) := by
    intro h
    obtain ⟨i, -, hi⟩ := List.mem_map.mp h
    exact digitChar_mod_ne _ hi
  have htake : ∀ m n, ';' ∉ (((List.range 32).map fun i =>
      Nat.digitChar (id / 16 ^ (31 - i) % 16)).drop m).take n :=
    fun m n h => hhex (List.mem_of_mem_drop (List.mem_of_mem_take h))
  have hdrop : ';' ∉ ((List.range 32).map fun i =>
      Nat.digitChar (id / 16 ^ (31 - i) % 16)).drop 20 :=
    fun h => hhex (List.mem_of_mem_drop h)
  have hfirst := htake 0 8
  rw [List.drop_zero] at hfirst
  simp only [uuidText, String.toList_ofList, List.mem_append, List.mem_cons, not_or]
  exact ⟨hfirst, by decide, htake 8 4, by decide, htake 12 4, by decide, htake 16 4, by decide,
    hdrop⟩

theorem not_mem_toString_nat (n : Nat) : ';' ∉ (toString n).toList := by
  intro h
  have hdigits : ';' ∈ Nat.toDigits 10 n := by simpa [Nat.repr] using h
  have hdigit := Nat.isDigit_of_mem_toDigits (by decide) (by decide) hdigits
  revert hdigit
  decide

theorem not_mem_toString_int (amount : Int) : ';' ∉ (toString amount).toList := by
  cases amount with
  | ofNat n => exact not_mem_toString_nat n
  | negSucc n =>
      have htext : toString (Int.negSucc n) = "-" ++ toString (n + 1) := rfl
      rw [htext, String.toList_append, List.mem_append]
      rintro (h | h)
      · revert h
        decide
      · exact not_mem_toString_nat (n + 1) h

end Texts

open Initializer

variable {cfg : CheckoutSettings} {accountId returnUrl lang : String} {amount : Int}

/-- The parameters are the five pairs, joined. -/
theorem toList_params :
    (params cfg accountId amount returnUrl lang).toList =
      joinFields ';' '=' (toFields (linkPairs cfg accountId amount returnUrl lang)) := by
  delta params
  simp [linkPairs, toFields, joinFields, joinPair, List.intercalate]

theorem fromUTF8?_utf8 (text : String) : String.fromUTF8? ⟨(utf8 text).toArray⟩ = some text := by
  have hbytes : (⟨(utf8 text).toArray⟩ : ByteArray) = text.toUTF8 := by simp [utf8]
  rw [hbytes, String.toUTF8_eq_toByteArray, String.fromUTF8?, dif_pos text.isValidUTF8]
  rfl

/-- The text comes back from its base64. -/
theorem decodeText_encode (text : String) : decodeText (Base64.encode (utf8 text)) = some text := by
  rw [decodeText, Base64.decode_encode, Option.bind_some, fromUTF8?_utf8]

theorem ofFields_eq_iff {fields : List (List Char × List Char)} {pairs : List (String × String)} :
    ofFields fields = pairs ↔ fields = toFields pairs := by
  constructor
  · rintro rfl
    simp [ofFields, toFields, Function.comp_def]
  · rintro rfl
    simp [ofFields, toFields, Function.comp_def]

theorem readParams_eq_some {segment : List Char} {pairs : List (String × String)} :
    readParams segment = some pairs ↔
      ∃ text, decodeText segment = some text ∧
        splitFields ';' '=' text.toList = some (toFields pairs) := by
  simp [readParams, Option.bind_eq_some_iff, Option.map_eq_some_iff, ofFields_eq_iff]

/-- A text splits into the five pairs exactly when its parts have no separators. -/
theorem readParams_params (hid : ';' ∉ accountId.toList) :
    readParams (Base64.encode (utf8 (params cfg accountId amount returnUrl lang))) =
        some (linkPairs cfg accountId amount returnUrl lang) ↔
      Separable cfg returnUrl lang := by
  have hamount := not_mem_toString_int amount
  rw [readParams_eq_some, decodeText_encode]
  simp only [Option.some.injEq, exists_eq_left']
  rw [toList_params, splitFields_joinFields (by decide) (by simp [linkPairs, toFields])]
  simp only [linkPairs, toFields, List.map_cons, List.map_nil, List.forall_mem_cons]
  constructor
  · rintro ⟨⟨-, hmerchant, -⟩, ⟨hfield, -, hmark⟩, -, ⟨-, hurl, -⟩, ⟨-, hlang, -⟩, -⟩
    rw [String.toList_append, List.mem_append, not_or] at hfield hmark
    exact ⟨hmerchant, ⟨hfield.2, hmark.2⟩, hurl, hlang⟩
  · rintro ⟨hmerchant, ⟨hfield, hmark⟩, hurl, hlang⟩
    refine ⟨⟨by decide, hmerchant, by decide⟩, ⟨?_, hid, ?_⟩, ⟨by decide, hamount, by decide⟩,
      ⟨by decide, hurl, by decide⟩, ⟨by decide, hlang, by decide⟩, by simp⟩
    · rw [String.toList_append, List.mem_append, not_or]
      exact ⟨by decide, hfield⟩
    · rw [String.toList_append, List.mem_append, not_or]
      exact ⟨by decide, hmark⟩

theorem utf8_append (text text' : String) : utf8 (text ++ text') = utf8 text ++ utf8 text' := by
  simp [utf8, ByteArray.data_append]

/-- The base64 of the parameters begins with a digit that is not the slash. -/
theorem encode_params (cfg : CheckoutSettings) (accountId : String) (amount : Int)
    (returnUrl lang : String) :
    ∃ rest, Base64.encode (utf8 (params cfg accountId amount returnUrl lang)) = 'b' :: rest := by
  have hstart : utf8 "m=" = [109, 61] := by decide
  have hparams : ∃ text, params cfg accountId amount returnUrl lang = "m=" ++ text :=
    ⟨cfg.paymeMerchantId ++ ";ac." ++ cfg.paymeAccountField ++ "=" ++ accountId ++ ";a=" ++
      toString amount ++ ";c=" ++ returnUrl ++ ";l=" ++ lang, by
        delta params
        simp only [String.append_assoc]⟩
  obtain ⟨text, htext⟩ := hparams
  rw [htext, utf8_append, hstart]
  cases utf8 text with
  | nil => exact ⟨_, rfl⟩
  | cons byte bytes => exact ⟨_, rfl⟩

theorem toList_generatePayLink (cfg : CheckoutSettings) (accountId : String) (amount : Int)
    (returnUrl lang : String) :
    (generatePayLink cfg accountId amount returnUrl lang).toList = (baseUrl cfg).toList ++
      '/' :: Base64.encode (utf8 (params cfg accountId amount returnUrl lang)) := by
  simp [generatePayLink]

theorem utf8_of_fromUTF8? {bytes : List UInt8} {text : String}
    (h : String.fromUTF8? ⟨bytes.toArray⟩ = some text) : bytes = utf8 text := by
  unfold String.fromUTF8? at h
  split at h
  · cases h
    simp [utf8, String.fromUTF8]
  · cases h

/-- A segment that the slash cuts has not all of the parameters. -/
theorem readParams_cut {segment start : List Char} {accountId : String}
    (hsegment : Base64.encode (utf8 (params cfg accountId amount returnUrl lang)) =
      start ++ '/' :: segment) :
    readParams segment ≠ some (linkPairs cfg accountId amount returnUrl lang) := by
  intro h
  obtain ⟨text, htext, hfields⟩ := readParams_eq_some.mp h
  have hparams : text = params cfg accountId amount returnUrl lang := by
    rw [← String.toList_inj, toList_params, joinFields_of_splitFields hfields]
  obtain ⟨bytes, hbytes, hutf8⟩ := Option.bind_eq_some_iff.mp htext
  have hlength : bytes = utf8 text := utf8_of_fromUTF8? hutf8
  have hdigits : 2 ≤ Base64.digits (start ++ ['/']) := by
    obtain ⟨rest, hrest⟩ := encode_params cfg accountId amount returnUrl lang
    rw [hrest] at hsegment
    cases start with
    | nil => simp at hsegment
    | cons c start =>
        have hb : c = 'b' := (List.cons.inj hsegment).1.symm
        have hone : Base64.digits ('b' :: start) = Base64.digits start + 1 := by
          simp [Base64.digits, show (Base64.value 'b').isSome = true by decide]
        rw [hb, Base64.digits_append, hone, Base64.digits_slash]
        omega
  have hcut : Base64.encode (utf8 (params cfg accountId amount returnUrl lang)) =
      start ++ ['/'] ++ segment := by
    rw [hsegment, List.append_assoc, List.singleton_append]
  have hlt := Base64.length_decode_lt hcut hdigits hbytes
  rw [hlength, hparams] at hlt
  exact lt_irrefl _ hlt

/-- The last segment of a link has the parameters when it is the whole of their base64. -/
theorem readParams_afterLast (start : List Char) (hid : ';' ∉ accountId.toList) :
    readParams (afterLast '/' (start ++ '/' ::
        Base64.encode (utf8 (params cfg accountId amount returnUrl lang)))) =
        some (linkPairs cfg accountId amount returnUrl lang) ↔
      Separable cfg returnUrl lang ∧
        63 ∉ Base64.sextets (utf8 (params cfg accountId amount returnUrl lang)) := by
  rw [← Base64.slash_mem_encode, afterLast_append]
  by_cases hslash : '/' ∈ Base64.encode (utf8 (params cfg accountId amount returnUrl lang))
  · obtain ⟨first, hfirst⟩ := exists_eq_append_afterLast hslash
    rw [if_pos hslash]
    exact iff_of_false (readParams_cut hfirst) fun h => h.2 hslash
  · rw [if_neg hslash, readParams_params hid]
    exact (and_iff_left hslash).symm

namespace PaymeCheckoutUrlView

variable {user orderId : Uuid} {data : CheckoutPayload} {db db' : DB} {response : CheckoutResponse}

theorem post_ok (h : post cfg user orderId data db = (.ok response, db')) :
    ∃ order, db.orders.find? orderId = some order ∧ order.client = user ∧
      0 < orderAmountTiyin order ∧ db' = db ∧ response = answer cfg orderId order data := by
  obtain ⟨order, s, hfetch, h⟩ := bind_eq_ok.mp h
  obtain ⟨hfind, rfl⟩ := fetch_eq_ok.mp hfetch
  obtain ⟨horder, huser⟩ := Option.filter_eq_some_iff.mp hfind
  obtain ⟨_, s, hrequire, h⟩ := bind_eq_ok.mp h
  obtain ⟨hpos, rfl⟩ := require_eq_ok.mp hrequire
  obtain ⟨rfl, rfl⟩ := pure_eq_ok.mp h
  exact ⟨order, horder, of_decide_eq_true huser, hpos, rfl, rfl⟩

/-- The last path segment reads as the five pairs exactly when no text in it has a separator
and its base64 has no slash, which comes of six bits that are all set; whatever follows the
base URL, exactly when no text has a separator. -/
theorem link_roundtrip (h : post cfg user orderId data db = (.ok response, db')) :
    (readParams (afterLast '/' response.checkoutUrl.toList) = some (response.pairs cfg data) ↔
      Separable cfg (data.returnUrlOf cfg) (data.langOf cfg) ∧
        63 ∉ Base64.sextets (utf8 (params cfg (uuidText orderId) response.amount
          (data.returnUrlOf cfg) (data.langOf cfg)))) ∧
    ∃ segment, response.checkoutUrl.toList = (baseUrl cfg).toList ++ '/' :: segment ∧
      (readParams segment = some (response.pairs cfg data) ↔
        Separable cfg (data.returnUrlOf cfg) (data.langOf cfg)) := by
  obtain ⟨order, -, -, -, -, rfl⟩ := post_ok h
  have hurl := toList_generatePayLink cfg (uuidText orderId) (orderAmountTiyin order)
    (data.returnUrlOf cfg) (data.langOf cfg)
  refine ⟨?_, _, hurl, readParams_params (not_mem_uuidText orderId)⟩
  change readParams (afterLast '/' (generatePayLink cfg (uuidText orderId)
    (orderAmountTiyin order) (data.returnUrlOf cfg) (data.langOf cfg)).toList) = _ ↔ _
  rw [hurl]
  exact readParams_afterLast _ (not_mem_uuidText orderId)

/-- The link of an answer whose base64 has no slash reads as the pairs its text splits
into. -/
theorem readParams_answer {order : Order} {pairs : List (String × String)}
    (hslash : 63 ∉ Base64.sextets (utf8 (params cfg (uuidText orderId) (orderAmountTiyin order)
      (data.returnUrlOf cfg) (data.langOf cfg))))
    (hfields : joinFields ';' '=' (toFields (linkPairs cfg (uuidText orderId)
      (orderAmountTiyin order) (data.returnUrlOf cfg) (data.langOf cfg))) =
        joinFields ';' '=' (toFields pairs))
    (hpairs : splitFields ';' '=' (joinFields ';' '=' (toFields pairs)) = some (toFields pairs)) :
    readParams (afterLast '/' (answer cfg orderId order data).checkoutUrl.toList) =
      some pairs := by
  have hurl := toList_generatePayLink cfg (uuidText orderId) (orderAmountTiyin order)
    (data.returnUrlOf cfg) (data.langOf cfg)
  rw [← Base64.slash_mem_encode] at hslash
  change readParams (afterLast '/' (generatePayLink cfg (uuidText orderId)
    (orderAmountTiyin order) (data.returnUrlOf cfg) (data.langOf cfg)).toList) = _
  rw [hurl, afterLast_append, if_neg hslash, readParams_eq_some, decodeText_encode]
  exact ⟨_, rfl, by rw [toList_params, hfields, hpairs]⟩

end PaymeCheckoutUrlView

namespace Sample

def checkout : DB where
  orders := ⟨[fiscalOrder], by decide⟩

/-- A return URL with one more parameter, an amount of one tiyin. -/
def altering : CheckoutPayload := { returnUrl := some "homex://payment/result;a=1" }

end Sample

theorem PaymeCheckoutUrlView.link_roundtrip_sample :
    ∃ response, post {} 1 10 {} Sample.checkout = (.ok response, Sample.checkout) ∧
      readParams (afterLast '/' response.checkoutUrl.toList) = some (response.pairs {} {}) := by
  have hpost : post {} 1 10 {} Sample.checkout =
      (.ok (answer {} 10 Sample.fiscalOrder {}), Sample.checkout) := rfl
  refine ⟨_, hpost, (link_roundtrip hpost).1.mpr ⟨⟨?_, ?_, ?_, ?_⟩, ?_⟩⟩
  all_goals decide +kernel

/-- A client's return URL gives the link a second amount. -/
theorem PaymeCheckoutUrlView.return_url_alters_amount :
    ∃ response, post {} 1 10 Sample.altering Sample.checkout = (.ok response, Sample.checkout) ∧
      readParams (afterLast '/' response.checkoutUrl.toList) =
        some [("m", ""), ("ac.order_id", "00000000-0000-0000-0000-00000000000a"),
          ("a", "12666667"), ("c", "homex://payment/result"), ("a", "1"), ("l", "uz")] ∧
      readParams (afterLast '/' response.checkoutUrl.toList) ≠
        some (response.pairs {} Sample.altering) := by
  have hread : readParams (afterLast '/'
      (answer {} 10 Sample.fiscalOrder Sample.altering).checkoutUrl.toList) =
        some [("m", ""), ("ac.order_id", "00000000-0000-0000-0000-00000000000a"),
          ("a", "12666667"), ("c", "homex://payment/result"), ("a", "1"), ("l", "uz")] :=
    readParams_answer (by decide +kernel) (by decide +kernel) (by decide +kernel)
  refine ⟨answer {} 10 Sample.fiscalOrder Sample.altering, rfl, hread, ?_⟩
  rw [hread]
  intro hpairs
  have hlength := congrArg List.length (Option.some.inj hpairs)
  cases hlength

end Payme

end Homex
