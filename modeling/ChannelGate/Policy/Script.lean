import ChannelGate.Policy.Cache
import ChannelGate.Policy.Directory

set_option autoImplicit false

namespace ChannelGate

/-- An answer to who presents a credential. -/
structure IdentityRule where
  secret : Option String
  answer : Except PolicyError String

/-- An answer to whether a request is allowed. -/
structure DecisionRule where
  subject : Option String
  object : Option String
  action : Option Action
  answer : Except PolicyError Bool

structure Script where
  identities : List IdentityRule
  decisions : List DecisionRule

inductive Question where
  | identify (credential : Credential)
  | authorize (request : Request)
  deriving DecidableEq

namespace Script

/-- The first rule that agrees with a credential answers it. -/
def identify (script : Script) (credential : Credential) : Except PolicyError String :=
  match script.identities.find? fun rule => rule.secret.all (· = credential.secret) with
  | some rule => rule.answer
  | none => .error .notFound

def authorize (script : Script) (request : Request) : Except PolicyError Bool :=
  match script.decisions.find? fun rule =>
      rule.subject.all (· = request.subject) && rule.object.all (· = request.object) &&
        rule.action.all (· = request.action) with
  | some rule => rule.answer
  | none => .error .notFound

end Script

/-- A directory, a script that answers in its place if there is one, and the questions that came, in
order. -/
structure PolicyDesk where
  directory : Directory
  script : Option Script
  asked : List Question

namespace PolicyDesk

def identify (desk : PolicyDesk) (credential : Credential) : Except PolicyError String :=
  match desk.script with
  | some script => script.identify credential
  | none => desk.directory.identify credential

def authorize (desk : PolicyDesk) (request : Request) : Except PolicyError Bool :=
  match desk.script with
  | some script => script.authorize request
  | none => .ok (desk.directory.allows request)

def note (desk : PolicyDesk) (question : Question) : PolicyDesk :=
  { desk with asked := desk.asked ++ [question] }

/-- The desk as a policy that notes every question. -/
def policy : Policy PolicyDesk where
  identify credential := Run.onState fun desk =>
    (desk.identify credential, desk.note (.identify credential))
  authorize request := Run.onState fun desk =>
    (desk.authorize request, desk.note (.authorize request))

end PolicyDesk

end ChannelGate
