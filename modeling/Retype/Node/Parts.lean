import Retype.Node.Form

/-!
# Layers as named parts

Every layer has a name, its *kind*, and a list of parts in a fixed order.  This
is the view in which trees are exchanged with the outside, and the view in which
a failure names the node it is about.  `Form.ofParts` reads the view back.  A
kind or a layout it does not know becomes `Form.foreign`, so nothing is lost.
-/

namespace Retype

variable {α : Type}

/-- The child that an item is. -/
def Item.child : Item α → Option α
  | .node a => some a
  | .datum _ => none

/-- The text that an item is. -/
def Item.text' : Item α → Option String
  | .datum (.text s) => some s
  | _ => none

namespace Part

/-- A child that may be missing. -/
def ofChild? : Option α → Part α
  | none => .absent
  | some a => .node a

/-- A list of children. -/
def ofChildren (as : List α) : Part α := .list (as.map .node)

/-- A text that may be missing. -/
def ofText? : Option String → Part α
  | none => .absent
  | some s => .text s

/-- A list of texts. -/
def ofTexts (ss : List String) : Part α := .list (ss.map fun s => .datum (.text s))

/-- A variance marker that may be missing. -/
def ofVariance? (v : Option Variance) : Part α := ofText? (v.map (·.text))

/-- An import keyword that may be missing. -/
def ofImportKind? (k : Option ImportKind) : Part α := ofText? (k.map (·.text))

/-- The child of a part that is one. -/
def child : Part α → Option α
  | .node a => some a
  | _ => none

/-- The child, or its absence. -/
def child? : Part α → Option (Option α)
  | .node a => some (some a)
  | .absent => some none
  | _ => none

/-- The children of a part that is a list of nothing else. -/
def children : Part α → Option (List α)
  | .list items => items.mapM Item.child
  | _ => none

/-- The text of a part that is one. -/
def text' : Part α → Option String
  | .text s => some s
  | _ => none

/-- The text, or its absence. -/
def text? : Part α → Option (Option String)
  | .text s => some (some s)
  | .absent => some none
  | _ => none

/-- The texts of a part that is a list of nothing else. -/
def texts : Part α → Option (List String)
  | .list items => items.mapM Item.text'
  | _ => none

/-- The flag of a part that is one. -/
def flag' : Part α → Option Bool
  | .flag b => some b
  | _ => none

/-- The variance marker, or its absence. -/
def variance? : Part α → Option (Option Variance)
  | .text s => some (some (.ofText s))
  | .absent => some none
  | _ => none

/-- The import keyword, or its absence. -/
def importKind? : Part α → Option (Option ImportKind)
  | .text s => some (some (.ofText s))
  | .absent => some none
  | _ => none

/-- The children of a part. -/
def nodes : Part α → List α
  | .node a => [a]
  | .list items => items.filterMap Item.child
  | _ => []

end Part

/-! ## The kind of a layer -/

/-- The kind of a layer. -/
def FlowForm.kind : FlowForm α → String
  | .primitive a => "type_" ++ a.text
  | .stringLit .. => "type_string_lit"
  | .numberLit .. => "type_number_lit"
  | .booleanLit .. => "type_boolean_lit"
  | .nullable .. => "type_nullable"
  | .array .. => "type_array"
  | .tuple .. => "type_tuple"
  | .union .. => "type_union"
  | .intersection .. => "type_intersection"
  | .object .. => "type_object"
  | .generic .. => "type_generic"
  | .function .. => "type_function"
  | .typeOf .. => "type_typeof"
  | .prop .. => "obj_prop"
  | .indexer .. => "obj_indexer"
  | .spread .. => "obj_spread"
  | .param .. => "fn_param"
  | .tparams .. => "tparams"
  | .tparam .. => "tparam"
  | .targs .. => "targs"
  | .annot .. => "type_annotation"
  | .ifaceExt .. => "iface_ext"
  | .qualified .. => "qualified"
  | .typecast .. => "typecast"
  | .typeAlias .. => "type_alias"
  | .opaqueType .. => "opaque_type"
  | .interface .. => "interface"
  | .declareVar .. => "declare_var"
  | .declareFunction .. => "declare_function"
  | .declareClass .. => "declare_class"
  | .declareExport .. => "declare_export"

/-- The kind of a layer. -/
def TsForm.kind : TsForm α → String
  | .keyword a => "ts_" ++ a.text
  | .literal .. => "ts_literal"
  | .array .. => "ts_array"
  | .tuple .. => "ts_tuple"
  | .union .. => "ts_union"
  | .intersection .. => "ts_intersection"
  | .typeLiteral .. => "ts_type_literal"
  | .propSig .. => "ts_prop_sig"
  | .methodSig .. => "ts_method_sig"
  | .indexSig .. => "ts_index_sig"
  | .mapped .. => "ts_mapped"
  | .function .. => "ts_function"
  | .param .. => "ts_param"
  | .ref .. => "ts_type_ref"
  | .typeOf .. => "ts_typeof"
  | .keyOf .. => "ts_keyof"
  | .indexed .. => "ts_indexed"
  | .tparams .. => "ts_tparams"
  | .tparam .. => "ts_tparam"
  | .targs .. => "ts_targs"
  | .annot .. => "ts_type_annotation"
  | .heritage .. => "ts_heritage"
  | .qualified .. => "ts_qualified"
  | .cast .. => "ts_as"
  | .typeAlias .. => "ts_type_alias"
  | .interface .. => "ts_interface"
  | .declareVar .. => "ts_declare_var"
  | .declareFunction .. => "ts_declare_function"
  | .declareClass .. => "ts_declare_class"

/-- The kind of a layer. -/
def ExprForm.kind : ExprForm α → String
  | .ident .. => "ident"
  | .this => "this"
  | .num .. => "num"
  | .str .. => "str"
  | .template .. => "template"
  | .bool .. => "bool"
  | .null => "null"
  | .array .. => "array"
  | .spread .. => "spread"
  | .object .. => "object"
  | .prop .. => "prop"
  | .computedProp .. => "prop"
  | .method .. => "obj_method"
  | .function .. => "function"
  | .arrow .. => "arrow"
  | .param .. => "param"
  | .pattern .. => "obj_pattern"
  | .patternProp .. => "pattern_prop"
  | .call .. => "call"
  | .construct .. => "new"
  | .constructBare .. => "new"
  | .member .. => "member"
  | .index .. => "member"
  | .unary .. => "unary"
  | .update .. => "update"
  | .binary .. => "binary"
  | .cond .. => "cond"
  | .assign .. => "assign"
  | .paren .. => "paren"

/-- The kind of a layer. -/
def StmtForm.kind : StmtForm α → String
  | .program .. => "program"
  | .block .. => "block"
  | .exprStmt .. => "expr_stmt"
  | .varDecl .. => "var_decl"
  | .declarator .. => "declarator"
  | .ret .. => "return"
  | .throw .. => "throw"
  | .cond .. => "if"
  | .loop .. => "while"
  | .classDecl .. => "class"
  | .classProp .. => "class_prop"
  | .classMethod .. => "class_method"
  | .importDecl .. => "import"
  | .importDefault .. => "import_default"
  | .importAll .. => "import_ns"
  | .importSpec .. => "import_spec"
  | .exportNamed .. => "export_named"
  | .exportSpec .. => "export_spec"
  | .exportDefault .. => "export_default"
  | .exportAll .. => "export_all"

/-- The kind of a layer. -/
def Form.kind : Form α → String
  | .flow f => f.kind
  | .ts f => f.kind
  | .expr f => f.kind
  | .stmt f => f.kind
  | .foreign k _ => k

/-! ## The parts of a layer -/

/-- The parts of a layer, in the order of its kind. -/
def FlowForm.parts : FlowForm α → List (Part α)
  | .primitive _ => []
  | .stringLit a => [.text a]
  | .numberLit a => [.text a]
  | .booleanLit a => [.text a]
  | .nullable a => [.node a]
  | .array a => [.node a]
  | .tuple a => [.ofChildren a]
  | .union a => [.ofChildren a]
  | .intersection a => [.ofChildren a]
  | .object a b => [.ofChildren a, .flag b]
  | .generic a b => [.node a, .ofChild? b]
  | .function a b c d => [.ofChild? a, .ofChildren b, .ofChild? c, .node d]
  | .typeOf a => [.node a]
  | .prop a b c d e => [.text a, .node b, .flag c, .ofVariance? d, .flag e]
  | .indexer a b c d => [.ofText? a, .node b, .node c, .ofVariance? d]
  | .spread a => [.node a]
  | .param a b c => [.ofText? a, .node b, .flag c]
  | .tparams a => [.ofChildren a]
  | .tparam a b c d => [.text a, .ofChild? b, .ofChild? c, .ofVariance? d]
  | .targs a => [.ofChildren a]
  | .annot a => [.node a]
  | .ifaceExt a b => [.node a, .ofChild? b]
  | .qualified a b => [.node a, .text b]
  | .typecast a b => [.node a, .node b]
  | .typeAlias a b c d => [.text a, .ofChild? b, .node c, .flag d]
  | .opaqueType a b c d e => [.text a, .ofChild? b, .ofChild? c, .ofChild? d, .flag e]
  | .interface a b c d e => [.text a, .ofChild? b, .ofChildren c, .node d, .flag e]
  | .declareVar a b c => [.text a.text, .text b, .ofChild? c]
  | .declareFunction a b => [.text a, .ofChild? b]
  | .declareClass a b c d => [.text a, .ofChild? b, .ofChildren c, .node d]
  | .declareExport a b => [.node a, .flag b]

/-- The parts of a layer, in the order of its kind. -/
def TsForm.parts : TsForm α → List (Part α)
  | .keyword _ => []
  | .literal a => [.text a]
  | .array a => [.node a]
  | .tuple a => [.ofChildren a]
  | .union a => [.ofChildren a]
  | .intersection a => [.ofChildren a]
  | .typeLiteral a => [.ofChildren a]
  | .propSig a b c d => [.text a, .node b, .flag c, .flag d]
  | .methodSig a b c => [.text a, .node b, .flag c]
  | .indexSig a b c d => [.text a, .node b, .node c, .flag d]
  | .mapped a b c d => [.text a, .node b, .node c, .flag d]
  | .function a b c d => [.ofChild? a, .ofChildren b, .ofChild? c, .node d]
  | .param a b c => [.text a, .node b, .flag c]
  | .ref a b => [.node a, .ofChild? b]
  | .typeOf a => [.node a]
  | .keyOf a => [.node a]
  | .indexed a b => [.node a, .node b]
  | .tparams a => [.ofChildren a]
  | .tparam a b c => [.text a, .ofChild? b, .ofChild? c]
  | .targs a => [.ofChildren a]
  | .annot a => [.node a]
  | .heritage a b => [.node a, .ofChild? b]
  | .qualified a b => [.node a, .text b]
  | .cast a b => [.node a, .node b]
  | .typeAlias a b c d => [.text a, .ofChild? b, .node c, .flag d]
  | .interface a b c d e => [.text a, .ofChild? b, .ofChildren c, .ofChildren d, .flag e]
  | .declareVar a b c => [.text a.text, .text b, .ofChild? c]
  | .declareFunction a b c d e => [.text a, .ofChild? b, .ofChildren c, .ofChild? d, .node e]
  | .declareClass a b c d => [.text a, .ofChild? b, .ofChild? c, .ofChild? d]

/-- The parts of a layer, in the order of its kind. -/
def ExprForm.parts : ExprForm α → List (Part α)
  | .ident a => [.text a]
  | .this => []
  | .num a => [.text a]
  | .str a => [.text a]
  | .template a b => [.ofTexts a, .ofChildren b]
  | .bool a => [.flag a]
  | .null => []
  | .array a => [.ofChildren a]
  | .spread a => [.node a]
  | .object a => [.ofChildren a]
  | .prop a b c => [.text a, .node b, .flag false, .flag c]
  | .computedProp a b => [.node a, .node b, .flag true, .flag false]
  | .method a b => [.text a, .node b]
  | .function a b c d e h i =>
    [.ofText? a, .ofChild? b, .ofChildren c, .ofChild? d, .node e, .flag h, .flag i]
  | .arrow a b c d e => [.ofChild? a, .ofChildren b, .ofChild? c, .node d, .flag e]
  | .param a b c d e => [.node a, .ofChild? b, .flag c, .ofChild? d, .flag e]
  | .pattern a => [.ofChildren a]
  | .patternProp a b c d => [.text a, .ofChild? b, .ofChild? c, .flag d]
  | .call a b c => [.node a, .ofChildren b, .flag c]
  | .construct a b c => [.node a, .ofChild? b, .ofChildren c]
  | .constructBare a b => [.node a, .ofChild? b, .absent]
  | .member a b c => [.node a, .text b, .flag false, .flag c]
  | .index a b c => [.node a, .node b, .flag true, .flag c]
  | .unary a b => [.text a.text, .node b]
  | .update a b c => [.text a.text, .node b, .flag c]
  | .binary a b c => [.text a.text, .node b, .node c]
  | .cond a b c => [.node a, .node b, .node c]
  | .assign a b c => [.text a.text, .node b, .node c]
  | .paren a => [.node a]

/-- The parts of a layer, in the order of its kind. -/
def StmtForm.parts : StmtForm α → List (Part α)
  | .program a => [.ofChildren a]
  | .block a => [.ofChildren a]
  | .exprStmt a => [.node a]
  | .varDecl a b => [.text a.text, .ofChildren b]
  | .declarator a b c => [.node a, .ofChild? b, .ofChild? c]
  | .ret a => [.ofChild? a]
  | .throw a => [.node a]
  | .cond a b c => [.node a, .ofChild? b, .ofChild? c]
  | .loop a b => [.node a, .ofChild? b]
  | .classDecl a b c d e h =>
    [.text a, .ofChild? b, .ofChild? c, .ofChild? d, .ofChildren e, .ofChildren h]
  | .classProp a b c d e h => [.text a, .ofChild? b, .ofChild? c, .flag d, .ofVariance? e, .flag h]
  | .classMethod a b c => [.text a, .node b, .flag c]
  | .importDecl a b c => [.ofImportKind? a, .ofChildren b, .text c]
  | .importDefault a => [.text a]
  | .importAll a => [.text a]
  | .importSpec a b c => [.text a, .text b, .ofImportKind? c]
  | .exportNamed a b c d => [.ofChild? a, .ofChildren b, .ofText? c, .ofImportKind? d]
  | .exportSpec a b => [.text a, .text b]
  | .exportDefault a => [.node a]
  | .exportAll a b => [.ofText? a, .text b]

/-- The parts of a layer, in the order of its kind. -/
def Form.parts : Form α → List (Part α)
  | .flow f => f.parts
  | .ts f => f.parts
  | .expr f => f.parts
  | .stmt f => f.parts
  | .foreign _ ps => ps

/-- The children of a layer, from left to right. -/
def Form.children (f : Form α) : List α := f.parts.flatMap Part.nodes

/-! ## Reading a layer back -/

/-- Reads a layer of this group from its kind and parts. -/
def FlowForm.ofParts? : String → List (Part α) → Option (FlowForm α)
  | "type_string_lit", [a] => do return .stringLit (← a.text')
  | "type_number_lit", [a] => do return .numberLit (← a.text')
  | "type_boolean_lit", [a] => do return .booleanLit (← a.text')
  | "type_nullable", [a] => do return .nullable (← a.child)
  | "type_array", [a] => do return .array (← a.child)
  | "type_tuple", [a] => do return .tuple (← a.children)
  | "type_union", [a] => do return .union (← a.children)
  | "type_intersection", [a] => do return .intersection (← a.children)
  | "type_object", [a, b] => do return .object (← a.children) (← b.flag')
  | "type_generic", [a, b] => do return .generic (← a.child) (← b.child?)
  | "type_function", [a, b, c, d] =>
    do return .function (← a.child?) (← b.children) (← c.child?) (← d.child)
  | "type_typeof", [a] => do return .typeOf (← a.child)
  | "obj_prop", [a, b, c, d, e] =>
    do return .prop (← a.text') (← b.child) (← c.flag') (← d.variance?) (← e.flag')
  | "obj_indexer", [a, b, c, d] =>
    do return .indexer (← a.text?) (← b.child) (← c.child) (← d.variance?)
  | "obj_spread", [a] => do return .spread (← a.child)
  | "fn_param", [a, b, c] => do return .param (← a.text?) (← b.child) (← c.flag')
  | "tparams", [a] => do return .tparams (← a.children)
  | "tparam", [a, b, c, d] =>
    do return .tparam (← a.text') (← b.child?) (← c.child?) (← d.variance?)
  | "targs", [a] => do return .targs (← a.children)
  | "type_annotation", [a] => do return .annot (← a.child)
  | "iface_ext", [a, b] => do return .ifaceExt (← a.child) (← b.child?)
  | "qualified", [a, b] => do return .qualified (← a.child) (← b.text')
  | "typecast", [a, b] => do return .typecast (← a.child) (← b.child)
  | "type_alias", [a, b, c, d] =>
    do return .typeAlias (← a.text') (← b.child?) (← c.child) (← d.flag')
  | "opaque_type", [a, b, c, d, e] =>
    do return .opaqueType (← a.text') (← b.child?) (← c.child?) (← d.child?) (← e.flag')
  | "interface", [a, b, c, d, e] =>
    do return .interface (← a.text') (← b.child?) (← c.children) (← d.child) (← e.flag')
  | "declare_var", [a, b, c] =>
    do return .declareVar (.ofText (← a.text')) (← b.text') (← c.child?)
  | "declare_function", [a, b] => do return .declareFunction (← a.text') (← b.child?)
  | "declare_class", [a, b, c, d] =>
    do return .declareClass (← a.text') (← b.child?) (← c.children) (← d.child)
  | "declare_export", [a, b] => do return .declareExport (← a.child) (← b.flag')
  | k, [] => do return .primitive (← FlowPrimitive.all.find? fun p => "type_" ++ p.text == k)
  | _, _ => none

/-- Reads a layer of this group from its kind and parts. -/
def TsForm.ofParts? : String → List (Part α) → Option (TsForm α)
  | "ts_literal", [a] => do return .literal (← a.text')
  | "ts_array", [a] => do return .array (← a.child)
  | "ts_tuple", [a] => do return .tuple (← a.children)
  | "ts_union", [a] => do return .union (← a.children)
  | "ts_intersection", [a] => do return .intersection (← a.children)
  | "ts_type_literal", [a] => do return .typeLiteral (← a.children)
  | "ts_prop_sig", [a, b, c, d] =>
    do return .propSig (← a.text') (← b.child) (← c.flag') (← d.flag')
  | "ts_method_sig", [a, b, c] => do return .methodSig (← a.text') (← b.child) (← c.flag')
  | "ts_index_sig", [a, b, c, d] =>
    do return .indexSig (← a.text') (← b.child) (← c.child) (← d.flag')
  | "ts_mapped", [a, b, c, d] => do return .mapped (← a.text') (← b.child) (← c.child) (← d.flag')
  | "ts_function", [a, b, c, d] =>
    do return .function (← a.child?) (← b.children) (← c.child?) (← d.child)
  | "ts_param", [a, b, c] => do return .param (← a.text') (← b.child) (← c.flag')
  | "ts_type_ref", [a, b] => do return .ref (← a.child) (← b.child?)
  | "ts_typeof", [a] => do return .typeOf (← a.child)
  | "ts_keyof", [a] => do return .keyOf (← a.child)
  | "ts_indexed", [a, b] => do return .indexed (← a.child) (← b.child)
  | "ts_tparams", [a] => do return .tparams (← a.children)
  | "ts_tparam", [a, b, c] => do return .tparam (← a.text') (← b.child?) (← c.child?)
  | "ts_targs", [a] => do return .targs (← a.children)
  | "ts_type_annotation", [a] => do return .annot (← a.child)
  | "ts_heritage", [a, b] => do return .heritage (← a.child) (← b.child?)
  | "ts_qualified", [a, b] => do return .qualified (← a.child) (← b.text')
  | "ts_as", [a, b] => do return .cast (← a.child) (← b.child)
  | "ts_type_alias", [a, b, c, d] =>
    do return .typeAlias (← a.text') (← b.child?) (← c.child) (← d.flag')
  | "ts_interface", [a, b, c, d, e] =>
    do return .interface (← a.text') (← b.child?) (← c.children) (← d.children) (← e.flag')
  | "ts_declare_var", [a, b, c] =>
    do return .declareVar (.ofText (← a.text')) (← b.text') (← c.child?)
  | "ts_declare_function", [a, b, c, d, e] =>
    do return .declareFunction (← a.text') (← b.child?) (← c.children) (← d.child?) (← e.child)
  | "ts_declare_class", [a, b, c, d] =>
    do return .declareClass (← a.text') (← b.child?) (← c.child?) (← d.child?)
  | k, [] => do return .keyword (← TsKeyword.all.find? fun p => "ts_" ++ p.text == k)
  | _, _ => none

/-- Reads a layer of this group from its kind and parts. -/
def ExprForm.ofParts? : String → List (Part α) → Option (ExprForm α)
  | "ident", [a] => do return .ident (← a.text')
  | "this", [] => some .this
  | "num", [a] => do return .num (← a.text')
  | "str", [a] => do return .str (← a.text')
  | "template", [a, b] => do return .template (← a.texts) (← b.children)
  | "bool", [a] => do return .bool (← a.flag')
  | "null", [] => some .null
  | "array", [a] => do return .array (← a.children)
  | "spread", [a] => do return .spread (← a.child)
  | "object", [a] => do return .object (← a.children)
  | "prop", [a, b, c, d] => do
      match c with
      | .flag false => return .prop (← a.text') (← b.child) (← d.flag')
      | .flag true => if d.flag' = some false then return .computedProp (← a.child) (← b.child) else none
      | _ => none
  | "obj_method", [a, b] => do return .method (← a.text') (← b.child)
  | "function", [a, b, c, d, e, h, i] =>
    do return .function (← a.text?) (← b.child?) (← c.children) (← d.child?) (← e.child) (← h.flag') (← i.flag')
  | "arrow", [a, b, c, d, e] =>
    do return .arrow (← a.child?) (← b.children) (← c.child?) (← d.child) (← e.flag')
  | "param", [a, b, c, d, e] =>
    do return .param (← a.child) (← b.child?) (← c.flag') (← d.child?) (← e.flag')
  | "obj_pattern", [a] => do return .pattern (← a.children)
  | "pattern_prop", [a, b, c, d] =>
    do return .patternProp (← a.text') (← b.child?) (← c.child?) (← d.flag')
  | "call", [a, b, c] => do return .call (← a.child) (← b.children) (← c.flag')
  | "new", [a, b, c] => do
      match c with
      | .absent => return .constructBare (← a.child) (← b.child?)
      | _ => return .construct (← a.child) (← b.child?) (← c.children)
  | "member", [a, b, c, d] => do
      match c with
      | .flag false => return .member (← a.child) (← b.text') (← d.flag')
      | .flag true => return .index (← a.child) (← b.child) (← d.flag')
      | _ => none
  | "unary", [a, b] => do return .unary (.ofText (← a.text')) (← b.child)
  | "update", [a, b, c] => do return .update (.ofText (← a.text')) (← b.child) (← c.flag')
  | "binary", [a, b, c] => do return .binary (← BinaryOp.find? (← a.text')) (← b.child) (← c.child)
  | "cond", [a, b, c] => do return .cond (← a.child) (← b.child) (← c.child)
  | "assign", [a, b, c] => do return .assign (.ofText (← a.text')) (← b.child) (← c.child)
  | "paren", [a] => do return .paren (← a.child)
  | _, _ => none

/-- Reads a layer of this group from its kind and parts. -/
def StmtForm.ofParts? : String → List (Part α) → Option (StmtForm α)
  | "program", [a] => do return .program (← a.children)
  | "block", [a] => do return .block (← a.children)
  | "expr_stmt", [a] => do return .exprStmt (← a.child)
  | "var_decl", [a, b] => do return .varDecl (.ofText (← a.text')) (← b.children)
  | "declarator", [a, b, c] => do return .declarator (← a.child) (← b.child?) (← c.child?)
  | "return", [a] => do return .ret (← a.child?)
  | "throw", [a] => do return .throw (← a.child)
  | "if", [a, b, c] => do return .cond (← a.child) (← b.child?) (← c.child?)
  | "while", [a, b] => do return .loop (← a.child) (← b.child?)
  | "class", [a, b, c, d, e, h] =>
    do return .classDecl (← a.text') (← b.child?) (← c.child?) (← d.child?) (← e.children) (← h.children)
  | "class_prop", [a, b, c, d, e, h] =>
    do return .classProp (← a.text') (← b.child?) (← c.child?) (← d.flag') (← e.variance?) (← h.flag')
  | "class_method", [a, b, c] => do return .classMethod (← a.text') (← b.child) (← c.flag')
  | "import", [a, b, c] => do return .importDecl (← a.importKind?) (← b.children) (← c.text')
  | "import_default", [a] => do return .importDefault (← a.text')
  | "import_ns", [a] => do return .importAll (← a.text')
  | "import_spec", [a, b, c] => do return .importSpec (← a.text') (← b.text') (← c.importKind?)
  | "export_named", [a, b, c, d] =>
    do return .exportNamed (← a.child?) (← b.children) (← c.text?) (← d.importKind?)
  | "export_spec", [a, b] => do return .exportSpec (← a.text') (← b.text')
  | "export_default", [a] => do return .exportDefault (← a.child)
  | "export_all", [a, b] => do return .exportAll (← a.text?) (← b.text')
  | _, _ => none

/-- Reads a layer from its kind and parts. -/
def Form.ofParts (kind : String) (parts : List (Part α)) : Form α :=
  match FlowForm.ofParts? kind parts, TsForm.ofParts? kind parts, ExprForm.ofParts? kind parts,
    StmtForm.ofParts? kind parts with
  | some f, _, _, _ => .flow f
  | _, some f, _, _ => .ts f
  | _, _, some f, _ => .expr f
  | _, _, _, some f => .stmt f
  | none, none, none, none => .foreign kind parts

end Retype
