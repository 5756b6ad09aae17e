import SearchCompiler.Operator
import SearchCompiler.Text.Position

/-!
What can go wrong, by cause, and the wording of it. A caller failure lies in the descriptor and
returns with it every time; the others depend on the index or on how a document was written.
-/

namespace SearchCompiler

inductive Requirement where
  | field
  | fieldOrScript
  | dateHistogram
  | intervalOption
  | filterClauses
  | nestedPath
  | pathOrNothing
  | sourceField
  | fieldAndRanges
  | rawBody
  deriving DecidableEq

def Requirement.text : Requirement → String
  | .field => "a field"
  | .fieldOrScript => "a field or a script"
  | .dateHistogram => "date histogram arguments"
  | .intervalOption => "an 'interval' option"
  | .filterClauses => "filter clauses"
  | .nestedPath => "a nested path"
  | .pathOrNothing => "a path or no arguments"
  | .sourceField => "at least one source field"
  | .fieldAndRanges => "a field and at least one range"
  | .rawBody => "a raw body"

inductive DescriptorFault where
  | untypedClause
  | textNeeded (operator : Operator) (column : String)
  | duplicateAggregation (key : String)
  | metricWithChildren (key type : String)
  | fragmentNotObject (key : String)
  | argumentNeeded (key type : String) (requirement : Requirement)
  | noGroupingField
  | bucketAsMetric (key type : String)
  | groupingCollision (key : String)
  | endlessDelegation (type : String)
  | refused (text : String)
  deriving DecidableEq

def DescriptorFault.text : DescriptorFault → String
  | .untypedClause => "clause must have a 'type'"
  | .textNeeded operator column => s!"'{operator.name}' on '{column}' needs a string value"
  | .duplicateAggregation key => s!"duplicate aggregation key '{key}'"
  | .metricWithChildren key type =>
    s!"metric aggregation '{key}' ({type}) cannot have sub-aggregations"
  | .fragmentNotObject key => s!"aggregation '{key}' did not compile to an object"
  | .argumentNeeded key type requirement =>
    s!"aggregation '{key}' ({type}) requires {requirement.text}"
  | .noGroupingField => "distinct needs at least one field"
  | .bucketAsMetric key type => s!"distinct metric '{key}' is a '{type}' aggregation"
  | .groupingCollision key => s!"distinct field '{key}' collides with an aggregation key"
  | .endlessDelegation type => s!"aggregation type '{type}' delegates without end"
  | .refused text => text

inductive OperatorFault where
  | unknown (text : String)
  | onDate (operator : Operator) (column : String)
  deriving DecidableEq

def OperatorFault.text : OperatorFault → String
  | .unknown text => text
  | .onDate operator column => s!"{operator.name} on date column '{column}'"

inductive ReadFault where
  | shape
  | operator (text : String)
  | direction (n : Int)
  deriving DecidableEq

inductive Failure where
  | noExactField (field index : String)
  | unknownClause (kind : String)
  | unknownAggregation (type : String)
  | operator (fault : OperatorFault)
  | overloadedRelation (type : String)
  | descriptor (fault : DescriptorFault)
  | notADate (text : String)
  | mappingUnavailable (index reason : String)
  | misread (fault : ReadFault)
  deriving DecidableEq

namespace Failure

def misshapen : Failure := .misread .shape

def field? : Failure → Option String
  | .noExactField field _ => some field
  | _ => none

def isByCaller : Failure → Bool
  | .unknownClause _ | .unknownAggregation _ | .operator _
  | .overloadedRelation _ | .descriptor _ | .notADate _ => true
  | .noExactField _ _ | .mappingUnavailable _ _ | .misread _ => false

/-- The wording; a document of the wrong form has none that this library decides. -/
def message? : Failure → Option String
  | .noExactField field index =>
    some s!"Field '{field}' has no exact-match counterpart in index '{index}'"
  | .unknownClause kind => some s!"Unsupported clause kind: {kind}"
  | .unknownAggregation type => some s!"Unsupported aggregation type: {type}"
  | .operator fault => some s!"Unsupported operator: {fault.text}"
  | .overloadedRelation type =>
    some s!"Malformed relationship clause: '{type}' sets both a query and a filter"
  | .descriptor fault => some s!"Invalid descriptor: {fault.text}"
  | .notADate text => some s!"Invalid date value: {text}"
  | .mappingUnavailable index reason => some s!"Mapping lookup failed for index '{index}': {reason}"
  | .misread .shape => none
  | .misread (.operator text) =>
    some ("Serialization error: " ++ Text.plainPosition s!"Unsupported operator: {text}")
  | .misread (.direction n) =>
    some s!"Serialization error: Invalid descriptor: sort direction must be 1 or -1, got {n}"

end Failure

end SearchCompiler
