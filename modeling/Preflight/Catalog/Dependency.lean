import Preflight.Catalog.Component

/-!
# Checks of dependencies

Operators that the platform relies on are found by their subscriptions.  A cluster that serves no
subscriptions has no operators.
-/

namespace Preflight.Catalog

/-- Whether a value counts as given, with its text; values that do not count have none. -/
def givenText (d : Option Document) : Except Fault String :=
  match d with
  | some d => if d.isGiven then d.asText else .ok ""
  | none => .ok ""

/-- The package that a subscription installs; without one it is named like the subscription. -/
def packageOf (subscription : Manifest) : Except Fault Document :=
  match subscription.document.lookup "spec.name" with
  | some d => if d.isGiven then .ok d else subscription.name.map Document.text
  | none => subscription.name.map Document.text

/-- The installed version of the first subscription for one of the packages. -/
def installedVersion? (packages : List String) : List Manifest → Except Fault (Option String)
  | [] => .ok none
  | subscription :: rest => do
    let package ← packageOf subscription
    if packages.any (package.isText ·) then
      return some (← givenText (subscription.document.lookup "status.installedCSV"))
    else installedVersion? packages rest

def certManagerPackages : List String := ["cert-manager", "openshift-cert-manager-operator"]

def certManagerFinding (version : Option String) : Finding.Draft :=
  match version with
  | none => Finding.unavailable "cert-manager operator is not installed"
  | some version =>
    let shown := if version = "" then "unknown" else version
    Finding.available s!"cert-manager operator installed (version: {shown})"

def certManagerDescription : String :=
  "Reports the cert-manager operator installation status and version"

def certManager : Check where
  kind := "CertManagerInstalledCheck"
  id := "dependencies.certmanager.installed"
  name := "Dependencies :: CertManager :: Installed"
  description := certManagerDescription
  category := .known .dependency
  resourceTypes := []
  canApply _ _ := return true
  validate _ target := do
    let r := Check.newResult .dependency certManagerDescription "certmanager" "installed"
    let subscriptions ← target.reader.listServed .subscription
    let version ← Action.ofExcept (installedVersion? certManagerPackages subscriptions)
    return .result (← report r (certManagerFinding version))

end Preflight.Catalog
