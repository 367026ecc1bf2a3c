import GraphLint.Section
/-! # Completion

What can be written at a cursor: a fixed list of entries for each section. -/
namespace GraphLint.Completion

/-- What an entry stands for. -/
inductive ItemKind where
  | keyword
  | property
  | object
  | function
  deriving DecidableEq, Repr

/-- One entry that is offered. -/
structure Item where
  label : String
  kind : ItemKind
  detail : String
  documentation : String
  insertText : String
  deriving DecidableEq, Repr

/-- The entries of a graph definition. -/
def topLevelItems : List Item :=
  [⟨"kind", .keyword, "Specifies the resource type",
    "Required field that must be set to 'ResourceGraphDefinition'", "kind: ResourceGraphDefinition"⟩,
   ⟨"apiVersion", .keyword, "API version for the resource",
    "Required field that must be set to 'kro.run/v1alpha1'", "apiVersion: kro.run/v1alpha1"⟩,
   ⟨"metadata", .keyword, "Resource metadata",
    "Contains metadata for the resource such as name and namespace", "metadata:\n  name: "⟩,
   ⟨"spec", .keyword, "Resource specification",
    "Contains the core definition of the resource graph", "spec:\n  "⟩]

/-- The entries of `spec`. -/
def specItems : List Item :=
  [⟨"resources", .keyword, "Resource definitions",
    "Define the resources that make up your infrastructure", "resources:\n  "⟩,
   ⟨"relations", .keyword, "Relation definitions",
    "Define the relations between resources", "relations:\n  "⟩,
   ⟨"parameters", .keyword, "Parameter definitions",
    "Define input parameters for the resource graph", "parameters:\n  "⟩]

/-- The entries of `resources`. -/
def resourceItems : List Item :=
  [⟨"resource-name", .keyword, "Unique resource name",
    "Define a new resource with a unique identifier", "resource-name:\n  type: \n  template: "⟩,
   ⟨"type", .property, "Resource type",
    "The Kubernetes API type of this resource", "type: "⟩,
   ⟨"template", .property, "Resource template",
    "The YAML template for this resource", "template: |\n    "⟩,
   ⟨"annotations", .property, "Resource annotations",
    "Metadata annotations for this resource", "annotations:\n    "⟩]

/-- The entries of `relations`. -/
def relationItems : List Item :=
  [⟨"relation-name", .keyword, "Unique relation name",
    "Define a new relation with a unique identifier", "relation-name:\n  from: \n  to: "⟩,
   ⟨"from", .property, "Relation source",
    "The source resource of this relation", "from: "⟩,
   ⟨"to", .property, "Relation target",
    "The target resource of this relation", "to: "⟩,
   ⟨"condition", .property, "Relation condition",
    "A CEL condition that must be true for this relation", "condition: "⟩]

/-- The entries of `parameters`. -/
def parameterItems : List Item :=
  [⟨"parameter-name", .keyword, "Unique parameter name",
    "Define a new input parameter with a unique identifier", "parameter-name:\n  type: \n  default: "⟩,
   ⟨"type", .property, "Parameter type",
    "The data type of this parameter (string, number, boolean, object, array)", "type: "⟩,
   ⟨"default", .property, "Default value",
    "The default value for this parameter if not provided", "default: "⟩,
   ⟨"description", .property, "Parameter description",
    "A description of this parameter's purpose and usage", "description: "⟩]

/-- The names that an expression can use. -/
def expressionItems : List Item :=
  [⟨"params", .object, "Parameters object",
    "Access input parameters", "params."⟩,
   ⟨"resources", .object, "Resources object",
    "Access defined resources", "resources."⟩,
   ⟨"relations", .object, "Relations object",
    "Access defined relations", "relations."⟩,
   ⟨"has", .function, "CEL has() function",
    "Check if a field exists", "has("⟩,
   ⟨"size", .function, "CEL size() function",
    "Get the size/length of a string, list, or map", "size("⟩,
   ⟨"string", .function, "CEL string() function",
    "Convert a value to string", "string("⟩,
   ⟨"int", .function, "CEL int() function",
    "Convert a value to integer", "int("⟩,
   ⟨"bool", .function, "CEL bool() function",
    "Convert a value to boolean", "bool("⟩]

/-- The entries for a context.  A line at the top level that has begun a `spec:` entry gets those of
`spec`. -/
def itemsFor (context : Section.Context) : List Item :=
  match context.place with
  | .topLevel =>
    if Text.occurs "spec:".toList context.before then specItems else topLevelItems
  | .spec => specItems
  | .resources => resourceItems
  | .relations => relationItems
  | .parameters => parameterItems
  | .expression => expressionItems

/-- The entries for a position in a text. -/
def itemsAt (text : Text) (position : Position) : List Item :=
  itemsFor (Section.contextAt text position)

end GraphLint.Completion
