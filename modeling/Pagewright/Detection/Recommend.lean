import Pagewright.Detection.Signature
import Pagewright.Host.Site
import Pagewright.Preferences.Store

/-!
Recommendations: which candidates can replace a functionality, in which order, given the plugins of the
host. While the pro tier of the page builder is active, candidates that it makes redundant are left out,
but never all of them. Candidates that are active come first, then those installed, then the pro tier
itself, then those that fit best; candidates that tie keep the order of the table.
-/

namespace Pagewright.Detection

open Host (PluginRegistry Site SiteWork)

def builderSlug : String := "elementor"

def proSlug : String := "elementor-pro"

/-- Slugs that come with the page builder and need no installation. -/
def nativeSlugs : List String := [builderSlug, "custom_html", "custom_animations"]

/-- What the pro tier of the page builder does for functionalities. -/
structure ProCoverage where
  /-- The functionalities of which only candidates of the builder stay. -/
  replaces : List String
  /-- The functionalities of which candidates of the builder and the given slugs stay. -/
  supplements : Table (List String)

def ProCoverage.standard : ProCoverage :=
  ⟨["popup_modal"], [("animations", ["insert-headers-and-footers", "custom_animations"])]⟩

/-- Whether a candidate belongs to the page builder. -/
def Candidate.isBuilderNative (c : Candidate) : Bool :=
  c.slug == proSlug || c.slug == builderSlug || (c.isNative && Text.occursIn builderSlug c.slug)

/-- The candidates that stay when the pro tier is active. -/
def ProCoverage.filter (coverage : ProCoverage) (key : String) (solutions : List Candidate) :
    List Candidate :=
  let native := solutions.filter Candidate.isBuilderNative
  let supplemented := match coverage.supplements.get? key with
    | some allowed => solutions.filter fun c => c.isBuilderNative || allowed.contains c.slug
    | none => []
  if coverage.replaces.contains key && !native.isEmpty then native
  else if !supplemented.isEmpty then supplemented
  else solutions

/-- The order of candidates: whether the first may stand before the second. -/
def Candidate.before (proActive : Bool) (a b : Candidate) : Bool :=
  if a.active != b.active then a.active
  else if a.installed != b.installed then a.installed
  else if proActive && (a.slug == proSlug) != (b.slug == proSlug) then a.slug == proSlug
  else b.compatibility ≤ a.compatibility

/-- What recommendations are made from. -/
structure Recommender (ρ : Type) where
  signatures : Signatures
  registry : Option (PluginRegistry (Site ρ))
  preferences : Option Preferences.Store
  /-- The state of the pro tier, if it is not to be asked for. -/
  proOverride : Option Bool
  coverage : ProCoverage

namespace Recommender

variable {ρ : Type}

/-- What the registry says, or no where there is none. -/
def askRegistry (r : Recommender ρ) (site : Site ρ)
    (question : PluginRegistry (Site ρ) → Site ρ → Except Failure Bool) : Except Failure Bool :=
  match r.registry with
  | some registry => question registry site
  | none => .ok false

def isProActive (r : Recommender ρ) (site : Site ρ) : Except Failure Bool :=
  match r.proOverride with
  | some active => .ok active
  | none => r.askRegistry site (·.proActive)

def isProDefined (r : Recommender ρ) (site : Site ρ) : Except Failure Bool :=
  match r.proOverride with
  | some true => .ok true
  | _ => r.askRegistry site (·.proDefined)

def isInstalled (r : Recommender ρ) (slug : String) (site : Site ρ) : Except Failure Bool :=
  if nativeSlugs.contains slug then .ok true
  else if slug == proSlug then r.isProDefined site
  else r.askRegistry site (·.isInstalled slug)

def isActive (r : Recommender ρ) (slug : String) (site : Site ρ) : Except Failure Bool :=
  if nativeSlugs.contains slug then .ok true
  else if slug == proSlug then r.isProActive site
  else r.askRegistry site (·.isActive slug)

/-- A candidate with its state on the host. -/
def stamp (r : Recommender ρ) (site : Site ρ) (c : Candidate) : Except Failure Candidate := do
  let installed ← r.isInstalled c.slug site
  return c.withStatus installed (← r.isActive c.slug site)

/-- The candidates for a functionality, best first; an unknown one has none. -/
def solutionsFor (r : Recommender ρ) (key : String) (site : Site ρ) :
    Except Failure (List Candidate) :=
  match r.signatures.get? key with
  | none => .ok []
  | some signature => do
    let proActive ← r.isProActive site
    let kept := if proActive then r.coverage.filter key signature.solutions else signature.solutions
    let stamped ← kept.mapM (r.stamp site)
    return stamped.mergeSort (Candidate.before proActive)

/-- The saved preferences. -/
def savedPreferences (r : Recommender ρ) (site : Site ρ) : Except Failure (Table String) :=
  match r.preferences with
  | some store => (store.load site.files).mapError .fault
  | none => .ok []

/-- The candidate that is preferred: the one saved for the functionality, or the best. An empty slug stands for
none. -/
def preferred (r : Recommender ρ) (key : String) (site : Site ρ) :
    Except Failure (Option Candidate) := do
  let solutions ← r.solutionsFor key site
  let saved ← r.savedPreferences site
  let wanted := (saved.get? key).filter (!·.isEmpty)
  let chosen := wanted.bind fun slug => solutions.find? (·.slug == slug)
  return chosen <|> solutions.head?

/-- How a functionality is converted when a slug replaces it. -/
def methodFor (r : Recommender ρ) (key slug : String) (site : Site ρ) : Except Failure Value := do
  let solutions ← r.solutionsFor key site
  return ((solutions.find? (·.slug == slug)).map (·.method)).getD (.str genericConversion)

/-- Counts over the preferred candidates of functionalities. -/
structure Stats where
  total : Nat
  needed : Nat
  installed : Nat
  active : Nat
  native : Nat

/-- Counts with one more preferred candidate. -/
def Stats.add (stats : Stats) : Option Candidate → Stats
  | none => stats
  | some c =>
    if c.isNative then { stats with native := stats.native + 1 }
    else { stats with
      needed := stats.needed + 1
      installed := stats.installed + (if c.installed then 1 else 0)
      active := stats.active + (if c.active then 1 else 0) }

def Stats.toValue (stats : Stats) : Value :=
  .object [("total_functionalities", .count stats.total), ("plugins_needed", .count stats.needed),
    ("plugins_installed", .count stats.installed), ("plugins_active", .count stats.active),
    ("native_solutions", .count stats.native)]

/-- The counts for functionalities. -/
def stats (r : Recommender ρ) (keys : List String) (site : Site ρ) : Except Failure Stats :=
  keys.foldlM (fun stats key => do return stats.add (← r.preferred key site))
    ⟨keys.length, 0, 0, 0, 0⟩

/-- Preferences saved, if there is where to. -/
def savePreferences (r : Recommender ρ) (preferences : Value) : SiteWork ρ Unit :=
  match r.preferences with
  | some store => SiteWork.ofWork (store.save preferences)
  | none => return ()

/-- Preferences forgotten. -/
def clearPreferences (r : Recommender ρ) : SiteWork ρ Unit :=
  match r.preferences with
  | some store => SiteWork.ofWork store.clear
  | none => return ()

/-- The registry, which is needed to handle a slug. -/
def requireRegistry (r : Recommender ρ) (slug : String) :
    Except Failure (PluginRegistry (Site ρ)) :=
  match r.registry with
  | some registry => .ok registry
  | none => .error (.collaborator s!"No plugin registry configured to handle '{slug}'" "registry"
      none [])

/-- A failure of a step of the registry, reported as one of the registry. -/
def reportedBy (name : String) : Failure → Failure
  | .fault fault => .collaborator fault.message name (some fault) []
  | failure => failure

/-- A step of the registry. -/
def registryStep (registry : PluginRegistry (Site ρ))
    (operation : Site ρ → Except Failure Unit × Site ρ) : SiteWork ρ Unit :=
  SiteWork.step fun site =>
    let (result, site) := operation site
    (result.mapError (reportedBy registry.name), site)

/-- A plugin installed, unless it is there. -/
def install (r : Recommender ρ) (slug : String) : SiteWork ρ Unit := do
  if nativeSlugs.contains slug then return ()
  if ← SiteWork.ask (r.isInstalled slug) then return ()
  let registry ← SiteWork.ask fun _ => r.requireRegistry slug
  registryStep registry (registry.install slug)

/-- A plugin activated, unless it is active. -/
def activate (r : Recommender ρ) (slug : String) : SiteWork ρ Unit := do
  if nativeSlugs.contains slug then return ()
  if ← SiteWork.ask (r.isActive slug) then return ()
  let registry ← SiteWork.ask fun _ => r.requireRegistry slug
  if !(← SiteWork.ask (registry.isInstalled slug)) then
    throw (.collaborator "Plugin file not found" registry.name none [("slug", .str slug)])
  registryStep registry (registry.activate slug)

end Recommender

end Pagewright.Detection
