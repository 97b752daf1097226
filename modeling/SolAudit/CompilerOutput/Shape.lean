import SolAudit.Json.Basic

/-!
# Shapes of compiler output

Three kinds of documents hold syntax trees. They are told apart by their keys, the most specific first.
-/

namespace SolAudit.CompilerOutput

inductive Shape where
  | combinedJson
  | hardhatBuildInfo
  | foundryBuildInfo
  deriving DecidableEq, Repr

namespace Shape

def name : Shape → String
  | .combinedJson => "CombinedJson"
  | .hardhatBuildInfo => "HardhatBuildInfo"
  | .foundryBuildInfo => "FoundryBuildInfo"

def label : Shape → String
  | .combinedJson => "solc combined-json"
  | .hardhatBuildInfo => "hardhat build-info"
  | .foundryBuildInfo => "foundry build-info"

end Shape

/-- The files of a build-info document. -/
def outputSources? (doc : Json) : Option Json.Members :=
  (doc.path? ["output", "sources"]).bind Json.members?

/-- The file of an entry that lists one per compiler version. -/
def versionedFile? (entry : Json) : Option Json :=
  (entry.at? 0).bind fun first ↦ first.get? "source_file"

/-- The tree of an entry of combined JSON, under either of its two keys. -/
def combinedTree? (entry : Json) : Option Json :=
  match entry.get? "AST" with
  | some tree => some tree
  | none => entry.get? "ast"

def isFoundry (doc : Json) : Bool :=
  ((doc.get? "source_id_to_path").bind Json.members?).isSome ||
    (outputSources? doc).any fun sources ↦ sources.any fun (_, entry) ↦ (versionedFile? entry).isSome

def hardhatFormat : String := "hh-sol-build-info"

def isHardhat (doc : Json) : Bool :=
  ((doc.get? "_format").bind Json.string?).any (·.startsWith hardhatFormat) ||
    ((doc.get? "solcVersion").isSome && (doc.get? "input").isSome && (outputSources? doc).isSome)

def isCombined (doc : Json) : Bool :=
  ((doc.get? "sources").bind Json.members?).any fun sources ↦
    sources.any fun (_, entry) ↦ (combinedTree? entry).isSome

/-- The shape of a document, if it has one. -/
def detect? (doc : Json) : Option Shape :=
  if isFoundry doc then some .foundryBuildInfo
  else if isHardhat doc then some .hardhatBuildInfo
  else if isCombined doc then some .combinedJson
  else none

end SolAudit.CompilerOutput
