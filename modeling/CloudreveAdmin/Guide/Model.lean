import CloudreveAdmin.Js.ParseInt
import CloudreveAdmin.Machine

/-!
# The COS storage-policy wizard

`COSGuide` walks the administrator through seven steps: the bucket (0), the upload path (1),
direct links (2), upload limits (3), the CORS policy (4), the upload callback (5) and the end
(6). The forms of steps 0 to 2 only move to the next step; the form of step 3 runs
`submitPolicy`, which posts the policy to `/admin/policy` and moves to step 4 when the server
answers with the policy's ID. Steps 4 and 5 offer `createCORS` and `creatCallback`, which post
that ID to `/admin/policy/cors` and `/admin/policy/scf`, and a skip button each.

The state holds the component's state hooks, the requests in flight, and two records of the
run that the component itself does not keep: `savedIDs`, the IDs of the successful saves so
far, and `edited` and `editedOptions`, the policy fields the administrator's inputs have
written. Nothing in the component reads them. `skipped` and `magicVar` are left out: only the
rendering of the stepper and of the magic-variable dialogs reads them.

The browser's form validation (required fields and patterns) is not modelled, so the model
allows every run the page allows and a few more; each concrete run below fills in every
required field.
-/

namespace CloudreveAdmin

namespace COSGuide

/-- The policy the wizard starts from when it creates a new one. -/
def newPolicy : JsValue :=
  .obj [("Type", .str "cos"), ("Name", .str ""), ("SecretKey", .str ""), ("AccessKey", .str ""),
    ("BaseURL", .str ""), ("Server", .str ""), ("IsPrivate", .str "true"),
    ("DirNameRule", .str "uploads/{year}/{month}/{day}"), ("AutoRename", .str "true"),
    ("FileNameRule", .str "{randomkey8}_{originname}"), ("IsOriginLinkEnable", .str "false"),
    ("MaxSize", .str "0"), ("OptionsSerialized", .obj [("file_type", .str "")])]

/-- A request the wizard sends. -/
inductive Request where
  /-- `POST /admin/policy` with the policy. -/
  | savePolicy (body : JsValue)
  /-- `POST /admin/policy/cors` with the policy ID. -/
  | cors (id : JsValue)
  /-- `POST /admin/policy/scf` with the policy ID and the bucket's region. -/
  | scf (id : JsValue) (region : String)

/-- The server's answer: `response.data`, or the error the API layer rejects with. -/
inductive Reply where
  | ok (data : JsValue)
  | fail (message : String)

/-- The state of a wizard run. -/
structure Guide where
  /-- Whether `props.policy` was given, i.e. an existing policy is being edited. -/
  editing : Bool
  activeStep : Nat
  loading : Bool
  useCDN : String
  policy : JsValue
  policyID : JsValue
  region : String
  notice : Option Notice
  inFlight : List Request
  savedIDs : List JsValue
  edited : List String
  editedOptions : List String

/-- The wizard as it opens with `props.policy`. -/
def init (props : Option JsValue) : Guide where
  editing := props.isSome
  activeStep := 0
  loading := false
  useCDN := "false"
  policy := props.getD newPolicy
  policyID := match props with
    | some policy => policy.get "ID"
    | none => .num 0
  region := "ap-chengdu"
  notice := none
  inFlight := []
  savedIDs := []
  edited := []
  editedOptions := []

/-- `handleChange(name)`. -/
def handleChange (name : String) (value : JsValue) (policy : JsValue) : JsValue :=
  policy.set name value

/-- `handleOptionChange(name)`. -/
def handleOptionChange (name : String) (value : JsValue) (policy : JsValue) : JsValue :=
  policy.setIn "OptionsSerialized" name value

/-- The body `submitPolicy` posts, or the `TypeError` that stops it when the allowed file
types are not a string. Without the CDN the download address is the bucket's own. -/
def submitPolicyBody (policy : JsValue) (useCDN : String) : Except String JsValue := do
  let policyCopy := policy.set "OptionsSerialized" (.obj (policy.get "OptionsSerialized").fields)
  let policyCopy := if useCDN = "false" then policyCopy.set "BaseURL" (policy.get "Server")
    else policyCopy
  -- 類型轉換
  let policyCopy := policyCopy.set "AutoRename" (.bool ((policyCopy.get "AutoRename").eqStr "true"))
  let policyCopy := policyCopy.set "IsOriginLinkEnable"
    (.bool ((policyCopy.get "IsOriginLinkEnable").eqStr "true"))
  let policyCopy := policyCopy.set "IsPrivate" (.bool ((policyCopy.get "IsPrivate").eqStr "true"))
  let policyCopy := policyCopy.set "MaxSize" (parseInt (policyCopy.get "MaxSize"))
  let options := policyCopy.get "OptionsSerialized"
  let fileType ← (options.get "file_type").callSplit
  let fileType := if fileType = [""] then [] else fileType
  pure (policyCopy.set "OptionsSerialized" (options.set "file_type" (.arr (fileType.map .str))))

/-- An action of the administrator or a reply of the server. -/
inductive Event where
  /-- An input or radio group wired to `handleChange(name)`. -/
  | change (name : String) (value : JsValue)
  /-- The allowed file types input, wired to `handleOptionChange("file_type")`. -/
  | changeOption (name : String) (value : JsValue)
  /-- The radio group of step 2 that allows permanent direct links. -/
  | originLink (value : JsValue)
  /-- The radio group of step 0 that chooses the CDN. -/
  | cdn (value : String)
  /-- The radio group of step 3 that limits the file size. -/
  | maxSizeLimit (limit : String)
  /-- The radio group of step 3 that limits the file types. -/
  | fileTypeLimit (limit : String)
  /-- The region select of step 5. -/
  | region (value : String)
  /-- The submit button of the forms of steps 0 to 3 (下一步). -/
  | next
  /-- The back buttons of steps 1 to 3 (上一步). -/
  | back
  /-- The skip buttons of steps 4 and 5 (跳過). -/
  | skip
  /-- The button of step 4 that runs `createCORS`. -/
  | cors
  /-- The button of step 5 that runs `creatCallback`. -/
  | callback
  /-- The server answers the request at `index` among those in flight. -/
  | reply (index : Nat) (answer : Reply)

/-- The two options of a radio group. -/
def isChoice (value : String) : Bool :=
  value = "true" || value = "false"

/-- A radio group's value as its `onChange` event carries it. -/
def isChoiceValue (value : JsValue) : Bool :=
  value.eqStr "true" || value.eqStr "false"

/-- Whether the step on screen shows an input wired to `handleChange(name)` that can send
`value`. -/
def changeShown (s : Guide) (name : String) (value : JsValue) : Bool :=
  match s.activeStep with
  | 0 => name ∈ ["BucketName", "Server", "AccessKey", "SecretKey", "Name"] ||
      (name = "IsPrivate" && isChoiceValue value) || (name = "BaseURL" && s.useCDN = "true")
  | 1 => name = "DirNameRule" || (name = "AutoRename" && isChoiceValue value) ||
      (name = "FileNameRule" && (s.policy.get "AutoRename").eqStr "true")
  | 3 => name = "MaxSize" && !(s.policy.get "MaxSize").eqStr "0"
  | _ => false

/-- The controls the step on screen shows and does not disable, and the replies that can
arrive. -/
def enabled (s : Guide) : Event → Bool
  | .change name value => changeShown s name value
  | .changeOption name _ => s.activeStep = 3 && name = "file_type" &&
      !((s.policy.get "OptionsSerialized").get "file_type").eqStr ""
  | .originLink value => s.activeStep = 2 && isChoiceValue value
  | .cdn value => s.activeStep = 0 && isChoice value
  | .maxSizeLimit limit | .fileTypeLimit limit => s.activeStep = 3 && isChoice limit
  | .region _ => s.activeStep = 5
  | .next => s.activeStep ≤ 3 && !s.loading
  | .back => 1 ≤ s.activeStep && s.activeStep ≤ 3
  | .skip => s.activeStep = 4 || s.activeStep = 5
  | .cors => s.activeStep = 4 && !s.loading
  | .callback => s.activeStep = 5 && !s.loading
  | .reply index _ => index < s.inFlight.length

/-- `submitPolicy`. It sets `loading` and clears it again before the request is answered; a
`TypeError` ends it after `setLoading(true)`. -/
def submitPolicy (s : Guide) : Guide :=
  match submitPolicyBody s.policy s.useCDN with
  | .ok body => { s with loading := false, inFlight := s.inFlight ++ [.savePolicy body] }
  | .error _ => { s with loading := true }

@[simp]
theorem submitPolicy_activeStep (s : Guide) : (submitPolicy s).activeStep = s.activeStep := by
  unfold submitPolicy; split <;> rfl

@[simp]
theorem submitPolicy_policyID (s : Guide) : (submitPolicy s).policyID = s.policyID := by
  unfold submitPolicy; split <;> rfl

@[simp]
theorem submitPolicy_savedIDs (s : Guide) : (submitPolicy s).savedIDs = s.savedIDs := by
  unfold submitPolicy; split <;> rfl

@[simp]
theorem submitPolicy_policy (s : Guide) : (submitPolicy s).policy = s.policy := by
  unfold submitPolicy; split <;> rfl

@[simp]
theorem submitPolicy_useCDN (s : Guide) : (submitPolicy s).useCDN = s.useCDN := by
  unfold submitPolicy; split <;> rfl

@[simp]
theorem submitPolicy_edited (s : Guide) : (submitPolicy s).edited = s.edited := by
  unfold submitPolicy; split <;> rfl

@[simp]
theorem submitPolicy_editedOptions (s : Guide) :
    (submitPolicy s).editedOptions = s.editedOptions := by
  unfold submitPolicy; split <;> rfl

/-- `createCORS`. -/
def createCORS (s : Guide) : Guide :=
  { s with loading := true, inFlight := s.inFlight ++ [.cors s.policyID] }

/-- `creatCallback`. -/
def creatCallback (s : Guide) : Guide :=
  { s with loading := true, inFlight := s.inFlight ++ [.scf s.policyID s.region] }

/-- What the `.then`, `.catch` and final `.then` of a request do with its reply. -/
def receive (s : Guide) : Request → Reply → Guide
  | .savePolicy _, .ok data =>
      { s with activeStep := 4, policyID := data, loading := false,
               savedIDs := s.savedIDs ++ [data],
               notice := some ⟨"儲存策略已" ++ (if s.editing then "儲存" else "添加"), "success"⟩ }
  | .cors _, .ok _ =>
      { s with activeStep := 5, loading := false, notice := some ⟨"跨域策略已添加", "success"⟩ }
  | .scf _ _, .ok _ =>
      { s with activeStep := 6, loading := false, notice := some ⟨"回調雲函數已添加", "success"⟩ }
  | _, .fail message => { s with loading := false, notice := some ⟨message, "error"⟩ }

/-- What an event does. -/
def step (s : Guide) : Event → Guide
  | .change name value =>
      { s with policy := handleChange name value s.policy, edited := name :: s.edited }
  | .changeOption name value =>
      { s with policy := handleOptionChange name value s.policy,
               editedOptions := name :: s.editedOptions }
  | .originLink value =>
      if (s.policy.get "IsPrivate").eqStr "true" && value.eqStr "true" then
        { s with notice := some ⟨"私有空間無法開啟此功能", "warning"⟩ }
      else
        { s with policy := handleChange "IsOriginLinkEnable" value s.policy,
                 edited := "IsOriginLinkEnable" :: s.edited }
  | .cdn value => { s with useCDN := value }
  | .maxSizeLimit limit =>
      { s with policy := s.policy.set "MaxSize" (.str (if limit = "true" then "10485760" else "0")),
               edited := "MaxSize" :: s.edited }
  | .fileTypeLimit limit =>
      { s with policy := s.policy.setIn "OptionsSerialized" "file_type"
                 (.str (if limit = "true" then "jpg,png,mp4,zip,rar" else "")),
               editedOptions := "file_type" :: s.editedOptions }
  | .region value => { s with region := value }
  | .next => if s.activeStep < 3 then { s with activeStep := s.activeStep + 1 } else submitPolicy s
  | .back => { s with activeStep := s.activeStep - 1 }
  | .skip => { s with activeStep := s.activeStep + 1 }
  | .cors => createCORS s
  | .callback => creatCallback s
  | .reply index answer =>
      match s.inFlight.get? index with
      | some request => receive { s with inFlight := s.inFlight.eraseIdx index } request answer
      | none => s

/-- The requests an event sends. -/
def sends (s : Guide) : Event → List Request
  | .next =>
      if s.activeStep < 3 then []
      else match submitPolicyBody s.policy s.useCDN with
        | .ok body => [.savePolicy body]
        | .error _ => []
  | .cors => [.cors s.policyID]
  | .callback => [.scf s.policyID s.region]
  | _ => []

/-- The requests still in flight once an event has happened, before it sends any. -/
def remaining (s : Guide) : Event → List Request
  | .reply index _ => s.inFlight.eraseIdx index
  | _ => s.inFlight

theorem inFlight_receive (s : Guide) (request : Request) (answer : Reply) :
    (receive s request answer).inFlight = s.inFlight := by
  cases request <;> cases answer <;> rfl

@[simp]
theorem receive_policy (s : Guide) (request : Request) (answer : Reply) :
    (receive s request answer).policy = s.policy := by
  cases request <;> cases answer <;> rfl

@[simp]
theorem receive_edited (s : Guide) (request : Request) (answer : Reply) :
    (receive s request answer).edited = s.edited := by
  cases request <;> cases answer <;> rfl

@[simp]
theorem receive_editedOptions (s : Guide) (request : Request) (answer : Reply) :
    (receive s request answer).editedOptions = s.editedOptions := by
  cases request <;> cases answer <;> rfl

/-- An event answers at most one request and sends those of `sends`. -/
theorem inFlight_step (s : Guide) (e : Event) :
    (step s e).inFlight = remaining s e ++ sends s e := by
  cases e with
  | next =>
      simp only [step, sends, remaining]
      split
      · simp
      · unfold submitPolicy
        split <;> simp_all
  | reply index answer =>
      simp only [step, sends, remaining, List.append_nil]
      cases found : s.inFlight.get? index with
      | some request => simp [inFlight_receive]
      | none =>
          rw [List.eraseIdx_of_length_le (List.get?_eq_none.mp found)]
  | originLink value =>
      simp only [step, sends, remaining]
      split <;> simp
  | _ => simp [step, sends, remaining, createCORS, creatCallback]

theorem step_reply {s : Guide} {index : Nat} {request : Request}
    (found : s.inFlight.get? index = some request) (answer : Reply) :
    step s (.reply index answer) =
      receive { s with inFlight := s.inFlight.eraseIdx index } request answer := by
  simp only [step, found]

/-- The wizard as a transition system. -/
def machine : Machine Guide Event where
  enabled := enabled
  step := step

/-- The states a wizard opened with `props.policy` can reach. -/
def Reachable (props : Option JsValue) (s : Guide) : Prop :=
  machine.Reachable (init props) s

theorem Reachable.step {props : Option JsValue} {s : Guide} (reach : Reachable props s)
    {e : Event} (allowed : enabled s e) : Reachable props (step s e) :=
  Machine.Reachable.step machine reach allowed

/-- Filling the required inputs of step 0. -/
def fillBucket : List Event :=
  [.change "BucketName" (.str "ccc-1252109809"), .change "Server" (.str "ccc-1252109809.cos"),
    .change "AccessKey" (.str "AKIDexample"), .change "SecretKey" (.str "secretexample"),
    .change "Name" (.str "cos")]

end COSGuide

end CloudreveAdmin
