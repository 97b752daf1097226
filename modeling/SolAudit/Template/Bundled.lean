import SolAudit.Template.Raw

/-!
# Bundled templates

The templates that come with the program, each in a document of its own.
-/

namespace SolAudit.Template.Bundled

def fieldEquals (field value : String) : RawPredicate := { field := some field, equals := some (.str value) }

def fieldIs (field : String) (value : Bool) : RawPredicate := { field := some field, equals := some (.bool value) }

def fieldIn (field : String) (values : List String) : RawPredicate :=
  { field := some field, oneOf := some (values.map .str) }

def childIn (slot kind : String) (predicates : List RawPredicate) : RawPredicate :=
  { child := some { kinds := [kind], slot := some slot, predicates } }

def ancestorOf (kinds : List String) (predicates : List RawPredicate) : RawPredicate :=
  { ancestor := some { kinds, predicates } }

def anyOf (list : List RawPredicate) : RawPredicate := { any := some list }

def unboundedLoop : RawTemplate where
  name := some "unbounded-loop"
  description := some ("Loop has no upper bound, or is bounded by the length of a dynamic array. " ++
    "Iterating over state that grows with usage can exhaust the block gas limit and lock the function permanently.")
  severity := some "High"
  references := ["https://swcregistry.io/docs/SWC-128",
    "https://consensys.github.io/smart-contract-best-practices/attacks/denial-of-service/"]
  actionItems := ["Add an explicit, constant upper bound to the loop condition.",
    "Process large collections in bounded batches across several transactions."]
  spec := some {
    kinds := ["ForStatement"]
    predicates := [anyOf [
      { slot := some "condition", present := some false },
      childIn "condition" "BinaryOperation" [
        childIn "rightExpression" "MemberAccess" [fieldEquals "memberName" "length"]]]] }

def txOriginAuthentication : RawTemplate where
  name := some "tx-origin-authentication"
  description := some ("tx.origin is compared in an authorization check. " ++
    "A malicious contract called by the legitimate owner passes such a check.")
  severity := some "High"
  references := ["https://swcregistry.io/docs/SWC-115"]
  actionItems := ["Use msg.sender for authorization."]
  spec := some {
    kinds := ["MemberAccess"]
    predicates := [
      fieldEquals "memberName" "origin",
      childIn "expression" "Identifier" [fieldEquals "name" "tx"],
      ancestorOf ["BinaryOperation"] [fieldIn "operator" ["==", "!="]]] }

def delegatecallUsage : RawTemplate where
  name := some "delegatecall-usage"
  description := some ("delegatecall executes foreign code against this contract's storage. " ++
    "A target that is user-controlled or upgradeable without checks can take over the contract.")
  severity := some "Medium"
  references := ["https://swcregistry.io/docs/SWC-112"]
  actionItems := ["Only delegatecall into trusted, immutable implementations.",
    "Restrict who can change the delegatecall target."]
  spec := some { kinds := ["MemberAccess"], predicates := [fieldEquals "memberName" "delegatecall"] }

def selfdestructUsage : RawTemplate where
  name := some "selfdestruct-usage"
  description := some ("The contract can be destroyed. " ++
    "An unprotected selfdestruct lets anyone remove the code and force-send the balance.")
  severity := some "Medium"
  references := ["https://swcregistry.io/docs/SWC-106", "https://eips.ethereum.org/EIPS/eip-6049"]
  actionItems := ["Remove selfdestruct, or guard it with strict access control."]
  spec := some { kinds := ["Identifier"], predicates := [fieldIn "name" ["selfdestruct", "suicide"]] }

def blockTimestampDependence : RawTemplate where
  name := some "block-timestamp-dependence"
  description := some ("block.timestamp is used in a condition. " ++
    "Validators can shift the timestamp within a small window.")
  severity := some "Low"
  references := ["https://swcregistry.io/docs/SWC-116"]
  actionItems := ["Do not rely on block.timestamp for precision below a few minutes."]
  spec := some {
    kinds := ["MemberAccess"]
    predicates := [
      fieldEquals "memberName" "timestamp",
      childIn "expression" "Identifier" [fieldEquals "name" "block"],
      ancestorOf ["BinaryOperation", "IfStatement", "Conditional", "WhileStatement"] []] }

def floatingPragma : RawTemplate where
  name := some "floating-pragma"
  description := some ("The compiler version is not pinned. " ++
    "The contract may be deployed with a compiler version other than the one it was tested with.")
  severity := some "Low"
  references := ["https://swcregistry.io/docs/SWC-103"]
  actionItems := ["Pin the pragma to the exact compiler version used in testing."]
  spec := some {
    kinds := ["PragmaDirective"]
    predicates := [{ field := some "literals", found := some "^solidity(\\^|~|>|<)" }] }

def lowLevelCall : RawPredicate :=
  childIn "expression" "MemberAccess" [fieldIn "memberName" ["call", "delegatecall", "staticcall", "send"]]

def uncheckedLowLevelCall : RawTemplate where
  name := some "unchecked-low-level-call"
  description := some ("The return value of a low-level call is discarded. " ++
    "A failed call does not revert and execution continues as if it had succeeded.")
  severity := some "Medium"
  references := ["https://swcregistry.io/docs/SWC-104"]
  actionItems := ["Check the boolean returned by the call and revert on failure."]
  spec := some {
    kinds := ["ExpressionStatement"]
    predicates := [childIn "expression" "FunctionCall" [anyOf [
      lowLevelCall,
      childIn "expression" "FunctionCallOptions" [lowLevelCall]]]] }

def publicFunctionCouldBeExternal : RawTemplate where
  name := some "public-function-could-be-external"
  description := some ("Public function is never meant to be called internally. " ++
    "Declaring it external documents the intent and lets the compiler read arguments straight from calldata.")
  severity := some "Low"
  references := ["https://docs.soliditylang.org/en/latest/contracts.html#function-visibility"]
  actionItems := ["Change the visibility to external if no internal caller exists."]
  spec := some {
    kinds := ["FunctionDefinition"]
    predicates := [
      fieldEquals "visibility" "public",
      fieldEquals "kind" "function",
      fieldIs "implemented" true,
      fieldIs "virtual" false] }

/-- The documents by their labels, in the order in which they are loaded. -/
def documents : List (String × List RawTemplate) := [
  ("builtin:unbounded-loop.yaml", [unboundedLoop]),
  ("builtin:tx-origin-authentication.yaml", [txOriginAuthentication]),
  ("builtin:delegatecall-usage.yaml", [delegatecallUsage]),
  ("builtin:selfdestruct-usage.yaml", [selfdestructUsage]),
  ("builtin:block-timestamp-dependence.yaml", [blockTimestampDependence]),
  ("builtin:floating-pragma.yaml", [floatingPragma]),
  ("builtin:unchecked-low-level-call.yaml", [uncheckedLowLevelCall]),
  ("builtin:public-function-could-be-external.yaml", [publicFunctionCouldBeExternal])]

end SolAudit.Template.Bundled
