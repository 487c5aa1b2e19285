import ServerConnections.Connection.Basic
import ServerConnections.Server.Request
import ServerConnections.Settings.Options
import ServerConnections.Url.Basic

/-!
# Telling cloud servers from self-hosted ones

A server belongs to the cloud service if its host name contains the cloud domain.
Any other server is asked, for it may be an alias of the cloud service. Nothing
is remembered between two questions, and no question fails: what cannot be found
out counts as self-hosted.

Only the host of an address decides. An address that is no absolute URL has no
host; of such an address the whole text is searched.

A server is asked for a health report by one request. It is up if the answer is a
success and its body is a report with the status `UP`; whatever else happens, it
is not.
-/

namespace ServerConnections

/-- A classifier: what cloud hosts contain, and how a server is asked. -/
structure Classifier (σ : Type) where
  cloudDomain : String
  /-- Whether a server reports that it is a healthy cloud node. -/
  isUp : String → StateM σ Bool

namespace Classifier

variable {σ : Type}

/-- Whether a text contains another. -/
def containsText (part : List Char) : List Char → Bool
  | [] => part.isEmpty
  | c :: rest => part.isPrefixOf (c :: rest) || containsText part rest

/-- **Whether an address alone shows that it is of the cloud service.** -/
def hasCloudHost (cloudDomain url : String) : Bool :=
  match Url.parse? url with
  | some u =>
    match u.host with
    | some host => containsText cloudDomain.toList host.text
    | none => false
  | none => containsText cloudDomain.toList url.toList

/-- **Whether an address is of the cloud service.** No question is asked about an
empty address or one that shows it by itself. -/
def isCloud (classifier : Classifier σ) (url : Option String) : StateM σ Bool :=
  let url := Address.clean (url.getD "")
  if url.isEmpty then pure false
  else if hasCloudHost classifier.cloudDomain url then pure true
  else classifier.isUp url

/-- Whether a connection leads to the cloud service. -/
def isCloudConnection (classifier : Classifier σ) (c : Connection) : StateM σ Bool :=
  classifier.isCloud c.serverUrl

end Classifier

/-! ## Health reports -/

/-- The health report of a server. -/
structure HealthReport where
  status : Option String
deriving DecidableEq, Repr

namespace HealthReport

/-- The status is all that is read of a report. -/
def record : Json.Record HealthReport HealthReport :=
  ⟨[.of "status" (.optional .text) fun x _ => ⟨x⟩], ⟨none⟩, some⟩

/-- A report is given by its status. -/
def form : Json.Form HealthReport := record.form

/-- The status of a server that is up. -/
def upStatus : String := "UP"

/-- Whether a text is a report that says that the server is up. -/
def isUp (text : String) : Bool :=
  match form.parse text with
  | .ok report => report.status == some upStatus
  | .error _ => false

end HealthReport

/-- How servers are asked for their health. -/
structure HealthProbe (σ : Type) where
  /-- What is put behind the address of a server. -/
  endpoint : String
  transport : Transport σ

namespace HealthProbe

variable {σ : Type}

/-- The probe that options ask for. -/
def ofOptions (o : Options) (transport : Transport σ) : HealthProbe σ :=
  ⟨o.healthEndpoint, transport⟩

/-- Whether an answer says that a server is up. -/
def accepts (r : Response) : Bool :=
  r.isSuccess && (r.text?.map HealthReport.isUp).getD false

/-- **Whether a server is up.** -/
def isUp (probe : HealthProbe σ) (baseUrl : String) : StateM σ Bool :=
  match Request.ofText? (baseUrl ++ probe.endpoint) with
  | none => pure false
  | some request => do
    return ((← probe.transport.fetch request).map accepts).getD false

/-- The classifier with the probe and the cloud domain that options ask for. -/
def classifier (o : Options) (transport : Transport σ) : Classifier σ :=
  ⟨o.cloudDomain, (ofOptions o transport).isUp⟩

end HealthProbe

end ServerConnections
