import Pagewright.Settings.Access

/-!
Choosing field providers. A provider is made when it is first asked for by name and then stays in use, so
that it keeps what it has read. Every namespace of placeholders has the provider that is named for it, or
else the one that the settings name.
-/

namespace Pagewright.Fields

/-- The names of the providers there are. -/
def providerNames : List String := ["meta", "null"]

/-- The file with field values: the one that the settings name, or one in the data directory. -/
def valuesFile : Work Path := do
  match ← Settings.path? "fields.meta_path" with
  | some file => return file
  | none => return (← Settings.dataDirectory) / "fields.yaml"

/-- A new provider of a name. -/
def makeProvider (name : String) : Work Provider := do
  if name == "meta" then return .file (← valuesFile) none
  else return .none

/-- The refusal of a name that no provider has. -/
def unknownProvider (name : Value) : Failure :=
  .config (s!"Unknown field provider '{name.text}'. Available: " ++ ", ".intercalate providerNames)
    [("provider", name)]

/-- The provider in use under a name. -/
def provider (name : String) : Work Provider := do
  if !providerNames.contains name then throw (unknownProvider (.str name))
  match (← get).providers.get? name with
  | some provider => return provider
  | none =>
    let provider ← makeProvider name
    modify fun w => { w with providers := w.providers.put name provider }
    return provider

/-- All providers put out of use. -/
def resetProviders : Work Unit := modify fun w => { w with providers := [] }

/-- The value of a field; the provider then has read its file. -/
def valueFrom (name field context : String) : Work Value := do
  let source ← provider name
  let files := (← get).files
  modify fun w => { w with providers := w.providers.put name (source.loaded files) }
  Work.ofExcept (source.value files field context)

/-- Names with one from the settings for a namespace that has none. -/
def withSettingsName (names : Table Value) (namespaceName : String) : Work (Table Value) := do
  return names.putNew namespaceName (.str (← Settings.fieldProviderName namespaceName))

/-- The names given for namespaces, filled up from the settings if there are fewer than namespaces. -/
def completeNames (names : Table Value) : Work (Table Value) :=
  if names.length < namespaces.length then namespaces.foldlM withSettingsName names
  else return names

/-- The provider of a namespace among names. -/
def providerOf (names : Table Value) (namespaceName : String) : Work (String × Provider) := do
  match names.get? namespaceName with
  | none => throw (.fault (.missingKey namespaceName))
  | some (.str name) => return (namespaceName, ← provider name)
  | some v => throw (if v.isHashable then unknownProvider v else .fault v.unhashable)

/-- The provider of every namespace. Names are given by namespace, as an object or in pairs. -/
def providersFor (names : Value) : Work (Table Provider) := do
  let given ← Work.ofExcept ((names.orElse (.object [])).toFields.mapError .fault)
  let names ← completeNames given
  namespaces.mapM (providerOf names)

/-- Providers as the sources of field values. -/
def sourcesOf (files : FileTree) (providers : Table Provider) : Table FieldSource :=
  providers.mapValues (·.source files)

end Pagewright.Fields
