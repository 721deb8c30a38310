import Homex.Payme.Checkout
import Homex.Payme.StateMachine
import Homex.System.Runs

/-!
# Who may call the webhook

The endpoint of the Payme methods is open: no user is authenticated. A post is let
through when its source is in the allow-list, if there is one, and when the last
word of its `Authorization` header is base64 for a text that ends, after a colon,
with the merchant key. A run of the site, with raw posts to the webhook between
the other requests, is a run of the backend; and without a post that shows the key
no transaction is created or performed.
-/

namespace Homex

namespace Payme

open Relational Orders Encoding Initializer

/-- The settings the webhook reads. -/
structure WebhookSettings where
  settings : Settings := {}
  paymeKey : String := ""
  paymeTestKey : String := ""
  paymeTestMode : Bool := false
  paymeAllowedIps : List String := []

/-- The key a post has to show. -/
def WebhookSettings.expected (cfg : WebhookSettings) : String :=
  if cfg.paymeTestMode then cfg.paymeTestKey else cfg.paymeKey

/-- The body of a post: no JSON, JSON that is not an object, or an object with its `method`,
if that is a string, and its `params`, if they are an object. -/
inductive Body
  | malformed
  | other
  | object (method : Option String) (params : Option Params)

/-- A post to the webhook. -/
structure WebhookPost where
  forwardedFor : Option String := none
  remoteAddr : Option String := none
  authorization : Option String := none
  body : Body

/-- What a post can be refused with; a handler fails with an error of the protocol. -/
inductive WebhookError
  | permissionDenied (data : String)
  | parseError
  | invalidRequest
  | methodNotFound (data : String)
  | handler (error : Error)
  deriving DecidableEq, Repr

/-- The `code` of the JSON-RPC error. -/
def WebhookError.errorCode : WebhookError → Int
  | .permissionDenied _ => -32504
  | .parseError => -32700
  | .invalidRequest => PaymeError.errorCode .invalidRequest
  | .methodNotFound _ => -32601
  | .handler (.payme error _) => error.errorCode
  | .handler _ => PaymeError.errorCode .internalServiceError

/-! ### Texts -/

/-- `str.isspace` of one character. -/
def isSpace (c : Char) : Bool :=
  [(9, 13), (28, 32), (133, 133), (160, 160), (5760, 5760), (8192, 8202), (8232, 8233),
    (8239, 8239), (8287, 8287), (12288, 12288)].any fun range : Nat × Nat =>
      range.1 ≤ c.toNat ∧ c.toNat ≤ range.2

/-- `split()[-1]`, none when there is no word. -/
def lastWord (text : List Char) : Option (List Char) :=
  let word := ((text.reverse.dropWhile isSpace).takeWhile fun c => ¬isSpace c).reverse
  if word = [] then none else some word

/-- `strip()`. -/
def strip (text : List Char) : List Char :=
  ((text.dropWhile isSpace).reverse.dropWhile isSpace).reverse

/-- `split(":", 1)[-1]`. -/
def afterColon (text : String) : String :=
  ((splitFirst ':' text.toList).map fun parts => String.ofList parts.2).getD text

/-- `b64decode` of a string, which has to be ASCII, and `decode`. -/
def decodeAscii (word : List Char) : Option String :=
  if word.all fun c => c.toNat < 128 then decodeText word else none

namespace PaymeWebHookAPIView

/-- `_client_ip`. -/
def clientIp (post : WebhookPost) : Option String :=
  match post.forwardedFor with
  | none => post.remoteAddr
  | some forwarded =>
      if forwarded = "" then post.remoteAddr
      else some (.ofList (strip (forwarded.toList.takeWhile (· ≠ ','))))

def checkIp (cfg : WebhookSettings) (post : WebhookPost) : Except WebhookError Unit :=
  if cfg.paymeAllowedIps = [] then
    .ok ()
  else if ∃ ip ∈ clientIp post, ip ∈ cfg.paymeAllowedIps then
    .ok ()
  else
    .error (.permissionDenied "Source IP not allowed")

def checkAuthorize (cfg : WebhookSettings) (post : WebhookPost) : Except WebhookError Unit :=
  match post.authorization.filter (· ≠ "") with
  | none => .error (.permissionDenied "Missing authorization header")
  | some auth =>
      match (lastWord auth.toList).bind decodeAscii with
      | none => .error (.permissionDenied "Invalid authorization header")
      | some decoded =>
          if cfg.expected = "" ∨ afterColon decoded ≠ cfg.expected then
            .error (.permissionDenied "Invalid merchant key")
          else
            .ok ()

/-- The handler of a method. -/
def method (name : String) (params : Params) : Option Request :=
  match name with
  | "CheckPerformTransaction" => some (.paymeCheckPerform params)
  | "CreateTransaction" => some (.paymeCreate params)
  | "PerformTransaction" => some (.paymePerform params)
  | "CancelTransaction" => some (.paymeCancel params)
  | "CheckTransaction" => some (.paymeCheck params)
  | "GetStatement" => some (.paymeStatement params)
  | _ => none

/-- The request of a body. -/
def request : Body → Except WebhookError Request
  | .malformed => .error .parseError
  | .other => .error .invalidRequest
  | .object name params =>
      match name.filter (· ≠ ""), params with
      | some name, some params =>
          (method name params).elim (.error (.methodNotFound name)) .ok
      | _, _ => .error .invalidRequest

/-- What a post asks for, when it is let through. -/
def accepted (cfg : WebhookSettings) (post : WebhookPost) : Except WebhookError Request := do
  checkIp cfg post
  checkAuthorize cfg post
  request post.body

/-- The answer to a post, and the database after it. -/
def post (cfg : WebhookSettings) (ctx : Context) (post : WebhookPost) (db : DB) :
    Except WebhookError Response × DB :=
  match accepted cfg post with
  | .error e => (.error e, db)
  | .ok r =>
      match handle cfg.settings ctx r db with
      | (.ok response, db') => (.ok response, db')
      | (.error e, db') => (.error (.handler e), db')

end PaymeWebHookAPIView

/-! ### The header -/

/-- A header shows the key when its last word is base64 for the key, under any user name or
without one. -/
def ShowsKey (key header : String) : Prop :=
  ∃ word text, lastWord header.toList = some word ∧ (∀ c ∈ word, c.toNat < 128) ∧
    decodeText word = some text ∧
      (text = key ∧ ':' ∉ key.toList ∨
        ∃ user : String, ':' ∉ user.toList ∧ text = user ++ ":" ++ key)

section Header

variable {key text : String}

theorem afterColon_eq_iff :
    afterColon text = key ↔ text = key ∧ ':' ∉ key.toList ∨
      ∃ user : String, ':' ∉ user.toList ∧ text = user ++ ":" ++ key := by
  unfold afterColon
  by_cases hcolon : ':' ∈ text.toList
  · obtain ⟨pair, hsome⟩ : ∃ pair, splitFirst ':' text.toList = some pair := ⟨_, if_pos hcolon⟩
    obtain ⟨htext, huser⟩ := splitFirst_eq_some.mp hsome
    rw [hsome, Option.map_some, Option.getD_some]
    constructor
    · rintro rfl
      refine Or.inr ⟨.ofList pair.1, by simpa using huser, ?_⟩
      rw [← String.toList_inj, htext]
      simp [joinPair]
    · rintro (⟨rfl, hnot⟩ | ⟨user, hnot, rfl⟩)
      · exact absurd hcolon hnot
      · have hpair : splitFirst ':' (user ++ ":" ++ key).toList = some (user.toList, key.toList) :=
          splitFirst_eq_some.mpr ⟨by simp [joinPair], hnot⟩
        obtain rfl := Option.some.inj (hsome.symm.trans hpair)
        exact String.ofList_toList
  · have hnone : splitFirst ':' text.toList = none := if_neg hcolon
    rw [hnone]
    constructor
    · rintro rfl
      exact Or.inl ⟨rfl, hcolon⟩
    · rintro (⟨rfl, -⟩ | ⟨user, -, rfl⟩)
      · rfl
      · simp at hcolon

/-- What the check of the header accepts. -/
theorem checkAuthorize_eq_ok_iff {cfg : WebhookSettings} {post : WebhookPost} :
    PaymeWebHookAPIView.checkAuthorize cfg post = .ok () ↔
      cfg.expected ≠ "" ∧ ∃ header ∈ post.authorization, ShowsKey cfg.expected header := by
  unfold PaymeWebHookAPIView.checkAuthorize
  constructor
  · intro h
    split at h
    · cases h
    · next header hheader =>
        split at h
        · cases h
        · next text hdecoded =>
            split at h
            · cases h
            · next hkey =>
                rw [not_or, not_not] at hkey
                obtain ⟨word, hword, htext⟩ := Option.bind_eq_some_iff.mp hdecoded
                unfold decodeAscii at htext
                split at htext
                · next hascii =>
                    refine ⟨hkey.1, header, (Option.filter_eq_some_iff.mp hheader).1, word, text,
                      hword, by simpa using hascii, htext, afterColon_eq_iff.mp hkey.2⟩
                · cases htext
  · rintro ⟨hexpected, header, hheader, word, text, hword, hascii, htext, hkey⟩
    have hne : header ≠ "" := by
      rintro rfl
      cases hword
    have hdecoded : (lastWord header.toList).bind decodeAscii = some text := by
      rw [hword, Option.bind_some, decodeAscii, if_pos (by simpa using hascii), htext]
    rw [show post.authorization = some header from hheader, Option.filter_some,
      if_pos (decide_eq_true hne)]
    dsimp only
    rw [hdecoded]
    exact if_neg (not_or.mpr ⟨hexpected, not_not.mpr (afterColon_eq_iff.mpr hkey)⟩)

theorem dropWhile_isSpace {word : List Char} (hspace : ∀ c ∈ word, isSpace c = false)
    (text : List Char) (hne : word ≠ []) :
    (word ++ text).dropWhile isSpace = word ++ text := by
  cases word with
  | nil => exact absurd rfl hne
  | cons c word =>
      rw [List.cons_append, List.dropWhile_cons_of_neg]
      rw [hspace c List.mem_cons_self]
      exact Bool.false_ne_true

/-- A word after a space is the last one. -/
theorem lastWord_append {word : List Char} (hspace : ∀ c ∈ word, isSpace c = false)
    (hne : word ≠ []) (start : List Char) {c : Char} (hc : isSpace c = true) :
    lastWord (start ++ c :: word) = some word := by
  have hreverse : ∀ c ∈ word.reverse, isSpace c = false :=
    fun c hmem => hspace c (List.mem_reverse.mp hmem)
  have hne' : word.reverse ≠ [] := by simpa using hne
  have htake : ((word.reverse ++ c :: start.reverse).takeWhile fun c => ¬isSpace c) =
      word.reverse := by
    rw [List.takeWhile_append_of_pos (by simpa using hspace)]
    simp [hc]
  unfold lastWord
  rw [List.reverse_append, List.reverse_cons, List.append_assoc, List.singleton_append,
    dropWhile_isSpace hreverse _ hne', htake, List.reverse_reverse]
  exact if_neg hne

/-- The header that Payme sends shows the key, whatever the key is. -/
theorem showsKey_payme (key : String) :
    ShowsKey key ("Basic " ++ .ofList (Base64.encode (utf8 ("Paycom:" ++ key)))) := by
  -- the instance of the bounded quantifier recurses too deep for the kernel, `all` does not
  have hall : ('=' :: Base64.alphabet).all (fun c => !isSpace c && c.toNat < 128) = true := by
    decide +kernel
  have hchars : ∀ c ∈ '=' :: Base64.alphabet, isSpace c = false ∧ c.toNat < 128 :=
    fun c hc => by simpa using List.all_eq_true.mp hall c hc
  have hbytes : utf8 ("Paycom:" ++ key) ≠ [] := by
    rw [utf8_append]
    exact List.append_ne_nil_of_left_ne_nil (by decide +kernel) _
  have htext := decodeText_encode ("Paycom:" ++ key)
  have hmem := Base64.mem_of_mem_encode (utf8 ("Paycom:" ++ key))
  have hne := Base64.encode_ne_nil hbytes
  generalize Base64.encode (utf8 ("Paycom:" ++ key)) = word at htext hmem hne ⊢
  refine ⟨word, "Paycom:" ++ key, ?_, fun c hc => (hchars c (hmem c hc)).2, htext,
    Or.inr ⟨"Paycom", by decide, ?_⟩⟩
  · simp only [String.toList_append, String.toList_ofList]
    exact lastWord_append (fun c hc => (hchars c (hmem c hc)).1) hne ['B', 'a', 's', 'i', 'c']
      (c := ' ') (by decide)
  · rw [show ("Paycom" ++ ":" : String) = "Paycom:" by decide]

/-- The check of the header lets a post through exactly when it shows the key, and the header
that Payme sends for a key passes it, whatever the key is. -/
theorem authorization_shows_key (cfg : WebhookSettings) (post : WebhookPost) :
    (PaymeWebHookAPIView.checkAuthorize cfg post = .ok () ↔
        cfg.expected ≠ "" ∧ ∃ header ∈ post.authorization, ShowsKey cfg.expected header) ∧
      (cfg.expected ≠ "" → PaymeWebHookAPIView.checkAuthorize cfg
        { post with
            authorization := some
              ("Basic " ++ .ofList (Base64.encode (utf8 ("Paycom:" ++ cfg.expected)))) } =
          .ok ()) := by
  refine ⟨checkAuthorize_eq_ok_iff, fun hexpected => ?_⟩
  exact checkAuthorize_eq_ok_iff.mpr ⟨hexpected, _, rfl, showsKey_payme cfg.expected⟩

end Header

/-! ### Runs -/

namespace PaymeWebHookAPIView

variable {cfg : WebhookSettings} {ctx : Context} {db : DB}

/-- A post that is let through shows the key, and asks for one of the six methods. -/
theorem accepted_ok {post : WebhookPost} {r : Request} (h : accepted cfg post = .ok r) :
    (∃ header ∈ post.authorization, ShowsKey cfg.expected header) ∧ r.isPayme = true := by
  unfold accepted at h
  cases hip : checkIp cfg post with
  | error e =>
      rw [hip] at h
      cases h
  | ok u =>
      cases hauthorize : checkAuthorize cfg post with
      | error e =>
          rw [hip, hauthorize] at h
          cases h
      | ok u =>
          rw [hip, hauthorize] at h
          refine ⟨(checkAuthorize_eq_ok_iff.mp hauthorize).2, ?_⟩
          change request post.body = .ok r at h
          unfold request at h
          split at h
          · cases h
          · cases h
          · split at h
            · next name params _ _ =>
                cases hmethod : method name params with
                | none =>
                    rw [hmethod] at h
                    cases h
                | some r' =>
                    rw [hmethod] at h
                    obtain rfl := Except.ok.inj h
                    unfold method at hmethod
                    split at hmethod <;> cases hmethod <;> rfl
            · cases h

theorem post_of_accepted {post : WebhookPost} {r : Request} (h : accepted cfg post = .ok r) :
    (PaymeWebHookAPIView.post cfg ctx post db).2 = (handle cfg.settings ctx r db).2 := by
  unfold PaymeWebHookAPIView.post
  rw [h]
  dsimp only
  split
  · next hhandle => rw [hhandle]
  · next hhandle => rw [hhandle]

theorem post_cases (cfg : WebhookSettings) (ctx : Context) (db : DB) (post : WebhookPost) :
    (PaymeWebHookAPIView.post cfg ctx post db).2 = db ∨
      ∃ r, accepted cfg post = .ok r ∧
        (PaymeWebHookAPIView.post cfg ctx post db).2 = (handle cfg.settings ctx r db).2 := by
  cases haccepted : accepted cfg post with
  | error e =>
      left
      unfold PaymeWebHookAPIView.post
      rw [haccepted]
  | ok r => exact Or.inr ⟨r, rfl, post_of_accepted haccepted⟩

end PaymeWebHookAPIView

/-- The site: raw posts to the webhook, and the requests to the other endpoints. -/
def site (cfg : WebhookSettings) : Transition.System World (Context × (Request ⊕ WebhookPost)) where
  init := World.Initial
  step w l w' := w.clock ≤ l.1.now ∧ w'.clock = l.1.now ∧
    match l.2 with
    | .inl r => r.isPayme = false ∧ w'.db = (handle cfg.settings l.1 r w.db).2
    | .inr post => w'.db = (PaymeWebHookAPIView.post cfg l.1 post w.db).2

section Runs

variable {cfg : WebhookSettings} {w w' : World}

/-- A run of the site is a run of the backend. A post that is refused does what a check without
an id does. -/
theorem backend_of_site (h : (site cfg).Reachable w) : (backend cfg.settings).Reachable w := by
  induction h with
  | init hinit => exact .init hinit
  | @step w w' l _ hstep ih =>
      obtain ⟨hle, hclock, hdb⟩ := hstep
      obtain ⟨ctx, r | post⟩ := l
      · exact ih.step (l := (ctx, r)) ⟨hle, hclock, hdb.2⟩
      · rcases PaymeWebHookAPIView.post_cases cfg ctx w.db post with
          hsame | ⟨r, -, heq⟩
        · exact ih.step (l := (ctx, .paymeCheck {})) ⟨hle, hclock, hdb.trans hsame⟩
        · exact ih.step (l := (ctx, r)) ⟨hle, hclock, hdb.trans heq⟩

/-- Which transactions there are, and which of them are performed. -/
def SamePayments (db db' : DB) : Prop :=
  ∀ id, (db'.payme.find? id).map PaymeTransaction.isPerformed =
    (db.payme.find? id).map PaymeTransaction.isPerformed

theorem samePayments_of_payme {db db' : DB} (h : db'.payme = db.payme) : SamePayments db db' := by
  intro id
  rw [h]

/-- A request to another endpoint creates, performs and refunds no transaction. -/
theorem samePayments_of_effect {settings : Settings} {ctx : Context} {db db' : DB} {r : Request}
    (h : Effect settings ctx db db' r) (hr : r.isPayme = false) : SamePayments db db' := by
  cases h with
  | frame hf => exact samePayments_of_payme hf.payme
  | create _ _ hpayme => exact samePayments_of_payme hpayme
  | rewrite _ _ _ hpayme => exact samePayments_of_payme hpayme
  | check _ _ _ _ hpayme => exact samePayments_of_payme hpayme
  | pay _ hcompletes => exact samePayments_of_payme (by rw [hcompletes.eq])
  | wallet hwallet => exact samePayments_of_payme (by rw [hwallet.eq])
  | payme hpayme =>
      cases hpayme with
      | create => cases hr
      | cancel => cases hr
      | refund => cases hr
      | perform => cases hr
      | @expire _ tx hfind hperformed _ _ hdb =>
          intro id
          rw [hdb]
          have hkey : db.payme.find? (key (tx.markAsCancelled ctx.now
              (some timeoutCancelReason) .canceledDuringInit)) = some tx := by
            rw [key_paymeTransaction, PaymeTransaction.markAsCancelled_transactionId]
            exact hfind
          refine Table.rel_of_save (R := fun old new => new.map PaymeTransaction.isPerformed =
            old.map PaymeTransaction.isPerformed) (fun _ => rfl) hkey ?_ id
          simp [PaymeTransaction.isPerformed, PaymeTransaction.markAsCancelled_state]
          simpa [PaymeTransaction.isPerformed] using hperformed

/-- In a run of the site in which no post shows the merchant key, whatever else is in the posts
and whatever the other endpoints are asked, no Payme transaction is created, performed or
refunded. -/
theorem payments_need_the_key
    (hrun : ((site cfg).restrict fun _ l => ∀ post, l.2 = .inr post →
      ∀ header ∈ post.authorization, ¬ShowsKey cfg.expected header).Leads w w') :
    SamePayments w.db w'.db := by
  induction hrun with
  | refl => exact samePayments_of_payme rfl
  | @step w₁ w₂ l _ hstep ih =>
      obtain ⟨hkey, -, -, hdb⟩ := hstep
      obtain ⟨ctx, r | post⟩ := l
      · have hsame := samePayments_of_effect (effect_handle cfg.settings ctx r w₁.db) hdb.1
        intro id
        rw [hdb.2, hsame id, ih id]
      · rcases PaymeWebHookAPIView.post_cases cfg ctx w₁.db post with
          hsame | ⟨r, haccepted, -⟩
        · intro id
          rw [show w₂.db = w₁.db from hdb.trans hsame, ih id]
        · obtain ⟨⟨header, hheader, hshows⟩, -⟩ := PaymeWebHookAPIView.accepted_ok haccepted
          exact absurd hshows (hkey post rfl header hheader)

namespace Sample

/-- The settings of a shop with a key. -/
def merchant : WebhookSettings where
  paymeKey := "secret"

/-- A post that performs the transaction, with the key or another word in its header. -/
def performPost (word : String) : WebhookPost where
  authorization := some ("Basic " ++ word)
  body := .object (some "PerformTransaction") (some { id := some "tx" })

/-- The client has chosen to pay online. -/
def choseOnline : World :=
  (Sample.world.run {} Sample.paymeOpened).next {}
    (Sample.at_ 23, .clientPay 1 10 (.choice .online))

/-- A post with another key comes. -/
def attacked : World where
  db := (PaymeWebHookAPIView.post merchant (Sample.at_ 24) (performPost "UGF5Y29tOm90aGVy")
    choseOnline.db).2
  clock := 24

end Sample

/-- The open transaction stays as it is, and the same post with the key performs it. -/
theorem payments_need_the_key_sample :
    ((Sample.world.run {} Sample.paymeOpened).db.payme.find? "tx").map
          PaymeTransaction.isPerformed = some false ∧
      (Sample.attacked.db.payme.find? "tx").map PaymeTransaction.isPerformed = some false ∧
      ((PaymeWebHookAPIView.post Sample.merchant (Sample.at_ 24)
        (Sample.performPost "UGF5Y29tOnNlY3JldA==") Sample.choseOnline.db).2.payme.find? "tx").map
          PaymeTransaction.isPerformed = some true := by
  have hopen : ((Sample.world.run {} Sample.paymeOpened).db.payme.find? "tx").map
      PaymeTransaction.isPerformed = some false := by decide
  have hkey : PaymeWebHookAPIView.checkAuthorize Sample.merchant
        (Sample.performPost "UGF5Y29tOm90aGVy") ≠ .ok () ∧
      PaymeWebHookAPIView.checkAuthorize Sample.merchant
        (Sample.performPost "UGF5Y29tOnNlY3JldA==") = .ok () := by
    decide +kernel
  have hrun : ((site Sample.merchant).restrict fun _ l => ∀ post, l.2 = .inr post →
      ∀ header ∈ post.authorization, ¬ShowsKey Sample.merchant.expected header).Leads
        (Sample.world.run {} Sample.paymeOpened) Sample.attacked := by
    have hchosen : ((site Sample.merchant).restrict fun _ l => ∀ post, l.2 = .inr post →
        ∀ header ∈ post.authorization, ¬ShowsKey Sample.merchant.expected header).Leads
          (Sample.world.run {} Sample.paymeOpened) Sample.choseOnline := by
      refine .step .refl (l := (Sample.at_ 23, .inl (.clientPay 1 10 (.choice .online))))
        ⟨?_, by decide, rfl, rfl, rfl⟩
      rintro post ⟨⟩
    refine hchosen.step (l := (Sample.at_ 24, .inr (Sample.performPost "UGF5Y29tOm90aGVy")))
      ⟨?_, by decide, rfl, rfl⟩
    · rintro post ⟨⟩ header hheader hshows
      exact hkey.1 (checkAuthorize_eq_ok_iff.mpr ⟨by decide, header, hheader, hshows⟩)
  have haccepted : PaymeWebHookAPIView.accepted Sample.merchant
      (Sample.performPost "UGF5Y29tOnNlY3JldA==") = .ok Sample.paymePerform := by
    unfold PaymeWebHookAPIView.accepted
    rw [hkey.2]
    rfl
  refine ⟨hopen, (payments_need_the_key hrun "tx").trans hopen, ?_⟩
  rw [PaymeWebHookAPIView.post_of_accepted haccepted]
  decide

end Runs

end Payme

end Homex
