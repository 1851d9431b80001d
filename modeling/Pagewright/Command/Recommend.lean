import Pagewright.Command.Archive
import Pagewright.Import.Importer

/-!
Commands about substitutes: ranking the candidates for a functionality, listing the functionalities that
are known, and showing, saving and forgetting the preferences among the candidates.
-/

namespace Pagewright.Command

open Console
open Detection (Candidate Recommender Signature Signatures)

/-- Recommendations for the site that the settings describe. -/
def recommenderFor (signatures : Signatures) : Work (Recommender Unit) := do
  let registry ← Host.registryFile .null none
  let data ← Settings.dataDirectory
  return { signatures, registry := some (registry.onSite Unit), preferences := some (.below data),
           proOverride := ← Settings.proOverride, coverage := .standard }

/-- A question to a site that is the workspace alone. -/
def askSite {α : Type} (question : Host.Site Unit → Except Failure α) : Work α :=
  Host.SiteWork.alone (Host.SiteWork.ask question)

/-- The signature of a functionality that has to be known. -/
def requireSignature (signatures : Signatures) (key : String) : Except Failure Signature :=
  match signatures.get? key with
  | some signature => .ok signature
  | none => .error (.notFound "functionality" key (signatures.keys.mergeSort fun a b => a ≤ b))

/-- The row of a candidate in a table. -/
def candidateRow (plain : Bool) (preferred : Option Candidate) (c : Candidate) : List String :=
  [c.slug, c.name.text, c.type.text, c.pricing.text, toString c.compatibility,
    statusIcon plain c.installed c.active,
    if preferred.any (·.slug == c.slug) then icon plain "complete" else ""]

/-- The candidates for a functionality shown, best first. -/
def recommend (key : String) : Work Unit := do
  let signatures ← signatures
  let signature ← Work.ofExcept (requireSignature signatures key)
  let r ← recommenderFor signatures
  let solutions ← askSite (r.solutionsFor key)
  let preferred ← askSite (r.preferred key)
  if (← get).json then
    printJson (.object [("key", .str key), ("pro_active", .bool (← askSite r.isProActive)),
      ("preferred", .ofText? (preferred.map (·.slug))),
      ("solutions", .list (solutions.map Candidate.toValue))])
  else
    printTable s!"{signature.name.text} ({key})"
      ["Slug", "Name", "Type", "Pricing", "Compat.", "Status", "Preferred"]
      (solutions.map (candidateRow (← get).plain preferred))
    if ← askSite r.isProActive then
      say "[muted]Builder pro tier is active; redundant candidates are hidden.[/muted]"

/-- The slugs of the candidates of a signature. -/
def slugsOf (signature : Signature) : List String := signature.solutions.map (·.slug)

def signatureOverview (signature : Signature) : Value :=
  .object [("name", signature.name), ("patterns", .texts signature.patterns),
    ("solutions", .texts (slugsOf signature))]

def signatureRow (entry : String × Signature) : List String :=
  [entry.1, entry.2.name.text, toString entry.2.patterns.length, ", ".intercalate (slugsOf entry.2)]

/-- The known functionalities shown. -/
def listSignatures : Work Unit := do
  let signatures ← signatures
  if (← get).json then printJson (.object (signatures.mapValues signatureOverview))
  else
    printTable "Functionality Signatures" ["Key", "Name", "Patterns", "Solutions"]
      (signatures.map signatureRow)

/-- The preferences in the data directory. -/
def preferenceStore : Work Preferences.Store := do return .below (← Settings.dataDirectory)

/-- The saved preferences shown. -/
def showPreferences (asJson : Bool) : Work Unit := do
  let store ← preferenceStore
  let preferences ← Work.ask store.load
  if asJson then printJson (.object (preferences.mapValues .str))
  else if preferences.isEmpty then say "[muted]No saved preferences.[/muted]"
  else
    printTable "Preferences" ["Functionality", "Solution"]
      (preferences.map fun entry => [entry.1, entry.2])

/-- A solution preferred for a functionality, both of which have to be known. -/
def setPreference (key slug : String) : Work Unit := do
  let signatures ← signatures
  let signature ← Work.ofExcept (requireSignature signatures key)
  let slugs := slugsOf signature
  if !slugs.contains slug then throw (.notFound s!"solution for {key}" slug slugs)
  let store ← preferenceStore
  let _ ← store.update key slug
  say (s!"[success]Saved[/success] {key} " ++ icon (← get).plain "arrow" ++ s!" {slug}")

/-- All saved preferences forgotten. -/
def clearPreferences : Work Unit := do
  let store ← preferenceStore
  store.clear
  say "[success]Preferences cleared[/success]"

end Pagewright.Command
