import CloudreveAdmin.Js.Value
import CloudreveAdmin.Machine

/-!
# The settings pages

`Access` (註冊與登入) and `Mail` (郵件) edit site settings as one object of string options. Each
page asks the server for its keys with `POST /admin/setting` when it opens, replaces its
options with the answer, and saves them with `PATCH /admin/setting`, whose body lists every key
of the options with its value. The button 儲存 is disabled while `loading` is set, from the save
until the server answers it.

`Access` also reads the site URL: its Web Authn switch changes the option only when the URL
starts with `https://`, and opens an alert otherwise. `Mail` also sends a test mail from a
dialog, which sets the same `loading`, and asks the server to reload its mail settings after a
save succeeds.

The browser refuses to submit a form while a `required` input is empty, and MUI's dialog keeps
the page behind it from being clicked; the model leaves both out and lets those events through,
so what it proves of every run also holds of the runs the browser allows. `AlertDialog` is a
component that src/ does not hold: the model only opens and closes it.
-/

namespace CloudreveAdmin

namespace Setting

/-- The server's answer: `response.data`, or the error the API layer rejects with. -/
inductive Reply where
  | ok (data : JsValue)
  | fail (message : String)

/-- The value `handleChange` and `handleCheckChange` write for a switch:
`event.target.checked ? "1" : "0"`. -/
def checkedText (checked : Bool) : JsValue :=
  .str (if checked then "1" else "0")

/-- `Object.keys(o)`. -/
def keys (o : JsValue) : List String :=
  o.fields.map Prod.fst

/-- The body of `PATCH /admin/setting`: `{ key: k, value: options[k] }` for each key of the
options. -/
def patchBody (options : JsValue) : JsValue :=
  .obj [("options",
    .arr ((keys options).map fun k => .obj [("key", .str k), ("value", options.get k)]))]

/-- `text.startsWith(pre)` on a string. -/
def startsWith (text pre : String) : Bool :=
  pre.toList.isPrefixOf text.toList

namespace Access

/-- The options `useState` starts with; their keys and `siteURL` are what the page asks for. -/
def defaults : JsValue :=
  .obj [("register_enabled", .str "1"), ("default_group", .str "1"), ("email_active", .str "0"),
    ("login_captcha", .str "0"), ("reg_captcha", .str "0"), ("forget_captcha", .str "0"),
    ("authn_enabled", .str "0")]

/-- A request the page sends. -/
inductive Request where
  /-- `POST /admin/setting` for `keys`. -/
  | settings (keys : List String)
  /-- `GET /admin/groups`, the choices of the default group. -/
  | groups
  /-- `PATCH /admin/setting`. -/
  | patch (body : JsValue)

/-- The state of the page. `loaded` records the settings the server sent, which the page keeps
only through `options` and `siteURL`. -/
structure Page where
  loading : Bool
  options : JsValue
  siteURL : JsValue
  groups : JsValue
  httpAlert : Bool
  notice : Option Notice
  inFlight : List Request
  loaded : Option JsValue

/-- The page as it opens, its effect having sent both requests. -/
def init : Page where
  loading := false
  options := defaults
  siteURL := .str ""
  groups := .arr []
  httpAlert := false
  notice := none
  inFlight := [.settings (keys defaults ++ ["siteURL"]), .groups]
  loaded := none

/-- An action of the administrator or a reply of the server. -/
inductive Event where
  /-- A switch other than Web Authn: `handleChange(name)`. -/
  | switch (name : String) (checked : Bool)
  /-- The Web Authn switch. -/
  | authn (checked : Bool)
  /-- The select 預設使用者群組: `handleInputChange("default_group")`. -/
  | defaultGroup (value : String)
  /-- The alert's `onClose`. -/
  | closeAlert
  /-- The button 儲存. -/
  | submit
  /-- The server answers the request at `index` among those in flight. -/
  | reply (index : Nat) (answer : Reply)

/-- The switches whose `onChange` is `handleChange(name)`. -/
def switches : List String :=
  ["register_enabled", "email_active", "reg_captcha", "login_captcha", "forget_captcha"]

/-- The values of the select: `v.ID.toString()` of each group but the one whose `ID === 3`. -/
def groupChoices : JsValue → List String
  | .arr items => items.filterMap fun v =>
      match v.get "ID" with
      | .num 3 => none
      | id =>
          match id.callToString with
          | .ok (.str text) => some text
          | _ => none
  | _ => []

/-- The controls the page shows and does not disable. -/
def enabled (s : Page) : Event → Bool
  | .switch name _ => name ∈ switches
  | .authn _ => true
  | .defaultGroup value => value ∈ groupChoices s.groups
  | .closeAlert => s.httpAlert
  | .submit => !s.loading
  | .reply index _ => index < s.inFlight.length

/-- The `onChange` of the Web Authn switch: the alert unless the site URL starts with
`https://`. `siteURL.startsWith` throws on a value that is not a string, and the handler stops
there. -/
def toggleAuthn (s : Page) (checked : Bool) : Page :=
  match s.siteURL with
  | .str url =>
      if startsWith url "https://" then
        { s with options := s.options.set "authn_enabled" (checkedText checked) }
      else { s with httpAlert := true }
  | _ => s

/-- What the `.then` and `.catch` of a request do with its reply. Reading `siteURL` throws on
`undefined` and `null`, and the `.catch` shows the error. -/
def receive (s : Page) : Request → Reply → Page
  | .settings _, .ok data =>
      match data.read "siteURL" with
      | .ok url => { s with siteURL := url, options := data.delete "siteURL", loaded := some data }
      | .error message => { s with notice := some ⟨message, "error"⟩ }
  | .groups, .ok data => { s with groups := data }
  | .patch _, .ok _ => { s with notice := some ⟨"設定已更改", "success"⟩, loading := false }
  | .patch _, .fail message => { s with notice := some ⟨message, "error"⟩, loading := false }
  | _, .fail message => { s with notice := some ⟨message, "error"⟩ }

/-- What an event does. -/
def step (s : Page) : Event → Page
  | .switch name checked => { s with options := s.options.set name (checkedText checked) }
  | .authn checked => toggleAuthn s checked
  | .defaultGroup value => { s with options := s.options.set "default_group" (.str value) }
  | .closeAlert => { s with httpAlert := false }
  | .submit => { s with loading := true, inFlight := s.inFlight ++ [.patch (patchBody s.options)] }
  | .reply index answer =>
      match s.inFlight.get? index with
      | some request => receive { s with inFlight := s.inFlight.eraseIdx index } request answer
      | none => s

/-- The page as a transition system. -/
def machine : Machine Page Event where
  enabled := enabled
  step := step

theorem step_reply {s : Page} {index : Nat} {request : Request}
    (found : s.inFlight.get? index = some request) (answer : Reply) :
    step s (.reply index answer) =
      receive { s with inFlight := s.inFlight.eraseIdx index } request answer := by
  simp only [step, found]

/-! ### The Web Authn switch -/

/-- Whether `siteURL.startsWith("https://")` holds. -/
def secure : JsValue → Bool
  | .str url => startsWith url "https://"
  | _ => false

/-- The Web Authn option the page had from the server, or from `defaults` before the settings
arrived. -/
def Page.sentAuthn (s : Page) : JsValue :=
  (s.loaded.getD defaults).get "authn_enabled"

/-- Unless the site URL starts with `https://`, the Web Authn option is the one the page had
from the server. -/
def Locked (s : Page) : Prop :=
  secure s.siteURL = false → s.options.get "authn_enabled" = s.sentAuthn

theorem locked_receive {s : Page} (locked : Locked s) (request : Request) (answer : Reply) :
    Locked (receive s request answer) := by
  cases request <;> cases answer <;> try exact locked
  case settings.ok keys data =>
    simp only [receive]
    split
    · intro _
      simp [Page.sentAuthn]
    · exact locked

theorem locked_step {s : Page} (locked : Locked s) {e : Event} (allowed : enabled s e) :
    Locked (step s e) := by
  cases e with
  | switch name checked =>
      have other : "authn_enabled" ≠ name := by
        rintro rfl
        simp [enabled, switches] at allowed
      intro insecure
      simpa [step, other] using locked insecure
  | authn checked =>
      simp only [step, toggleAuthn]
      split
      · split
        · rename_i url _ secured
          intro insecure
          simp [secure, *] at insecure
        · exact locked
      · exact locked
  | defaultGroup value => intro insecure; simpa [step] using locked insecure
  | reply index answer =>
      simp only [step]
      split
      · exact locked_receive
          (show Locked { s with inFlight := s.inFlight.eraseIdx index } from locked) _ answer
      · exact locked
  | closeAlert | submit => exact locked

/-- Unless the site URL the server sent starts with `https://`, the Web Authn switch changes
nothing: the page shows and saves the option as the server sent it, or the default "0" before
the settings arrive, so it can turn Web Authn neither on nor off. -/
theorem authn_locked {s : Page} (reach : machine.Reachable init s)
    (insecure : secure s.siteURL = false) :
    s.options.get "authn_enabled" = (s.loaded.getD defaults).get "authn_enabled" :=
  Machine.Reachable.induction machine reach Locked (fun _ => rfl)
    (fun _ _ locked allowed => locked_step locked allowed) insecure

/-- Settings of a site served over HTTP, with Web Authn on. -/
def httpSettings : JsValue :=
  .obj [("register_enabled", .str "1"), ("default_group", .str "2"), ("email_active", .str "0"),
    ("login_captcha", .str "0"), ("reg_captcha", .str "0"), ("forget_captcha", .str "0"),
    ("authn_enabled", .str "1"), ("siteURL", .str "http://")]

/-- The settings arrive, and the administrator turns the Web Authn switch off. -/
def turnAuthnOff : List Event :=
  [.reply 0 (.ok httpSettings), .authn false]

/-- The page after `turnAuthnOff`. -/
def authnOffTried : Page :=
  (machine.run init turnAuthnOff).getD init

theorem authn_off_refused :
    authnOffTried.options.get "authn_enabled" =
      (authnOffTried.loaded.getD defaults).get "authn_enabled" :=
  authn_locked ⟨turnAuthnOff, rfl⟩ rfl

example : authnOffTried.options.get "authn_enabled" = .str "1" ∧ authnOffTried.httpAlert :=
  ⟨rfl, rfl⟩

/-! ### Saving -/

/-- A save. -/
def Request.isPatch : Request → Bool
  | .patch _ => true
  | _ => false

theorem guarded_step {s : Page} (guarded : LoadingGuard Request.isPatch s.inFlight s.loading)
    {e : Event} (allowed : enabled s e) :
    LoadingGuard Request.isPatch (step s e).inFlight (step s e).loading := by
  cases e with
  | authn checked =>
      simp only [step, toggleAuthn]
      split
      · split <;> exact guarded
      · exact guarded
  | submit => exact guarded.send (by simpa [enabled] using allowed) _
  | reply index answer =>
      obtain ⟨request, found⟩ : ∃ request, s.inFlight.get? index = some request :=
        ⟨_, List.get?_eq_get (by simpa [enabled] using allowed)⟩
      rw [step_reply found]
      cases request with
      | patch body => cases answer <;> exact guarded.answer_busy found rfl _
      | settings keys =>
          cases answer with
          | ok data =>
              simp only [receive]
              split <;> exact guarded.answer_other found rfl
          | fail message => exact guarded.answer_other found rfl
      | groups => cases answer <;> exact guarded.answer_other found rfl
  | _ => exact guarded

/-- A save is sent once: while it is unanswered the page is loading, which disables 儲存. -/
theorem access_loading_while_pending {s : Page} (reach : machine.Reachable init s) :
    s.inFlight.countP Request.isPatch ≤ 1 ∧
      (0 < s.inFlight.countP Request.isPatch → s.loading) := by
  obtain ⟨single, loading⟩ := Machine.Reachable.induction machine reach
    (fun s => LoadingGuard Request.isPatch s.inFlight s.loading) (.of_idle rfl)
    fun _ _ guarded allowed => guarded_step guarded allowed
  exact ⟨single, loading⟩

/-- The page once the administrator has saved, before the settings arrived. -/
def savedEarly : Page :=
  (machine.run init [.submit]).getD init

theorem savedEarly_loading :
    savedEarly.inFlight.countP Request.isPatch ≤ 1 ∧
      (0 < savedEarly.inFlight.countP Request.isPatch → savedEarly.loading) :=
  access_loading_while_pending ⟨[.submit], rfl⟩

end Access

namespace Mail

/-- The options `useState` starts with, whose keys are what the page asks for. -/
def defaults : JsValue :=
  .obj [("fromName", .str ""), ("fromAdress", .str ""), ("smtpHost", .str ""),
    ("smtpPort", .str ""), ("replyTo", .str ""), ("smtpUser", .str ""), ("smtpPass", .str ""),
    ("smtpEncryption", .str ""), ("mail_keepalive", .str "30"),
    ("mail_activation_template", .str ""), ("mail_reset_pwd_template", .str "")]

/-- A request the page sends. -/
inductive Request where
  /-- `POST /admin/setting` for `keys`. -/
  | settings (keys : List String)
  /-- `PATCH /admin/setting`. -/
  | patch (body : JsValue)
  /-- `POST /admin/mailTest` with `to: address`. -/
  | mailTest (address : String)
  /-- `GET /admin/reload/email`. -/
  | reload

/-- The state of the page. -/
structure Page where
  loading : Bool
  test : Bool
  tesInput : String
  options : JsValue
  notice : Option Notice
  inFlight : List Request

/-- The page as it opens, its effect having sent the request for the settings. -/
def init : Page where
  loading := false
  test := false
  tesInput := ""
  options := defaults
  notice := none
  inFlight := [.settings (keys defaults)]

/-- An action of the administrator or a reply of the server. -/
inductive Event where
  /-- A text input: `handleChange(name)`. -/
  | change (name : String) (value : String)
  /-- The switch of `smtpEncryption`: `handleCheckChange("smtpEncryption")`. -/
  | encryption (checked : Bool)
  /-- The button 發送測試郵件. -/
  | openTest
  /-- The button 取消 of the dialog, or its `onClose`. -/
  | closeTest
  /-- The input 收件人地址 of the dialog. -/
  | testInput (value : String)
  /-- The button 發送 of the dialog. -/
  | sendTest
  /-- The button 儲存. -/
  | submit
  /-- The server answers the request at `index` among those in flight. -/
  | reply (index : Nat) (answer : Reply)

/-- The text inputs whose `onChange` is `handleChange(name)`. -/
def inputs : List String :=
  ["fromName", "fromAdress", "smtpHost", "smtpPort", "smtpUser", "smtpPass", "replyTo",
    "mail_keepalive", "mail_activation_template", "mail_reset_pwd_template"]

/-- The controls the page shows and does not disable; those of the dialog only while it is
open. -/
def enabled (s : Page) : Event → Bool
  | .change name _ => name ∈ inputs
  | .encryption _ | .openTest => true
  | .closeTest | .testInput _ => s.test
  | .sendTest => s.test && !s.loading
  | .submit => !s.loading
  | .reply index _ => index < s.inFlight.length

/-- What the `.then` and `.catch` of a request do with its reply. A successful save calls
`reload`. -/
def receive (s : Page) : Request → Reply → Page
  | .settings _, .ok data => { s with options := data }
  | .patch _, .ok _ =>
      { s with notice := some ⟨"設定已更改", "success"⟩, inFlight := s.inFlight ++ [.reload],
               loading := false }
  | .mailTest _, .ok _ => { s with notice := some ⟨"測試郵件已發送", "success"⟩, loading := false }
  | .reload, .ok _ => s
  | .patch _, .fail message | .mailTest _, .fail message =>
      { s with notice := some ⟨message, "error"⟩, loading := false }
  | _, .fail message => { s with notice := some ⟨message, "error"⟩ }

/-- What an event does. -/
def step (s : Page) : Event → Page
  | .change name value => { s with options := s.options.set name (.str value) }
  | .encryption checked =>
      { s with options := s.options.set "smtpEncryption" (checkedText checked) }
  | .openTest => { s with test := true }
  | .closeTest => { s with test := false }
  | .testInput value => { s with tesInput := value }
  | .sendTest => { s with loading := true, inFlight := s.inFlight ++ [.mailTest s.tesInput] }
  | .submit => { s with loading := true, inFlight := s.inFlight ++ [.patch (patchBody s.options)] }
  | .reply index answer =>
      match s.inFlight.get? index with
      | some request => receive { s with inFlight := s.inFlight.eraseIdx index } request answer
      | none => s

/-- The page as a transition system. -/
def machine : Machine Page Event where
  enabled := enabled
  step := step

theorem step_reply {s : Page} {index : Nat} {request : Request}
    (found : s.inFlight.get? index = some request) (answer : Reply) :
    step s (.reply index answer) =
      receive { s with inFlight := s.inFlight.eraseIdx index } request answer := by
  simp only [step, found]

/-! ### The save and the test mail -/

/-- The requests that set `loading`: a save and a test mail. -/
def Request.busy : Request → Bool
  | .patch _ | .mailTest _ => true
  | .settings _ | .reload => false

theorem guarded_step {s : Page} (guarded : LoadingGuard Request.busy s.inFlight s.loading)
    {e : Event} (allowed : enabled s e) :
    LoadingGuard Request.busy (step s e).inFlight (step s e).loading := by
  cases e with
  | sendTest =>
      simp only [enabled, Bool.and_eq_true, Bool.not_eq_true'] at allowed
      exact guarded.send allowed.2 _
  | submit => exact guarded.send (by simpa [enabled] using allowed) _
  | reply index answer =>
      obtain ⟨request, found⟩ : ∃ request, s.inFlight.get? index = some request :=
        ⟨_, List.get?_eq_get (by simpa [enabled] using allowed)⟩
      rw [step_reply found]
      cases request with
      | patch body =>
          cases answer with
          | ok data => exact (guarded.answer_busy found rfl false).append_other rfl
          | fail message => exact guarded.answer_busy found rfl false
      | mailTest address => cases answer <;> exact guarded.answer_busy found rfl false
      | settings keys => cases answer <;> exact guarded.answer_other found rfl
      | reload => cases answer <;> exact guarded.answer_other found rfl
  | _ => exact guarded

/-- The save and the test mail share `loading`: at most one of them is unanswered, and while it
is, 儲存 and 發送 are both disabled. -/
theorem mail_loading_while_pending {s : Page} (reach : machine.Reachable init s) :
    s.inFlight.countP Request.busy ≤ 1 ∧
      (0 < s.inFlight.countP Request.busy → ¬enabled s .submit ∧ ¬enabled s .sendTest) := by
  obtain ⟨single, loading⟩ := Machine.Reachable.induction machine reach
    (fun s => LoadingGuard Request.busy s.inFlight s.loading) (.of_idle rfl)
    fun _ _ guarded allowed => guarded_step guarded allowed
  exact ⟨single, fun pending => by simp [enabled, loading pending]⟩

/-- Opens the dialog, types an address and sends the test mail. -/
def sendTestMail : List Event :=
  [.openTest, .testInput "admin", .sendTest]

/-- The page after `sendTestMail`. -/
def testMailSent : Page :=
  (machine.run init sendTestMail).getD init

theorem testMailSent_disables_save :
    testMailSent.inFlight.countP Request.busy ≤ 1 ∧
      (0 < testMailSent.inFlight.countP Request.busy →
        ¬enabled testMailSent .submit ∧ ¬enabled testMailSent .sendTest) :=
  mail_loading_while_pending ⟨sendTestMail, rfl⟩

end Mail

end Setting

end CloudreveAdmin
