import CloudreveAdmin.Js.Value
import CloudreveAdmin.Js.ParseInt
import CloudreveAdmin.Js.Json
import CloudreveAdmin.Js.JsonText
import CloudreveAdmin.Group.Convert
import CloudreveAdmin.Group.Form
import CloudreveAdmin.Group.Session
import CloudreveAdmin.Group.Editor
import CloudreveAdmin.Machine
import CloudreveAdmin.Guide.Model
import CloudreveAdmin.Guide.Steps
import CloudreveAdmin.Guide.Submit
import CloudreveAdmin.Guide.Frame
import CloudreveAdmin.Policy.List
import CloudreveAdmin.File.Import
import CloudreveAdmin.Setting
import CloudreveAdmin.Responses
