import Obfuscation.Syntax.Printer.Stmt
/-!
The chain of calls that leads the printer to a failure. The functions here follow the printer's
order of visits and give, for the first failure met, a frame for each call from the printer's entry
down to the one that failed.
-/

namespace Obfuscation.Syntax

/-- A call in the chain that led the printer to a failure: the line of the printer's source that
made it, the function it was made in, that line's text without its indentation, and the start
column and width of the failing call in that text when the call does not fill the line. -/
structure CallFrame where
  line : Nat
  function : String
  text : String
  carets : Option (Nat × Nat)
  deriving Inhabited, DecidableEq, Repr

def call (line : Nat) (function text : String) : CallFrame := ⟨line, function, text, none⟩

def visiting (inner : List CallFrame) : List CallFrame :=
  call 809 "traverse" "super().visit(node)" ::
    ⟨418, "visit", "return visitor(node)", some (7, 13)⟩ :: inner

def via (site : CallFrame) (inner : Option (List CallFrame)) : Option (List CallFrame) :=
  inner.map fun fs => site :: visiting fs

def firstFailing : List (Option (List CallFrame)) → Option (Nat × List CallFrame)
  | [] => none
  | some fs :: _ => some (0, fs)
  | none :: rest => (firstFailing rest).map fun (i, fs) => (i + 1, fs)

/-- Items handed one by one to a function by `interleave`, itself called from `site`; `each`
holds the frames of the function's call on each item, none for an item that prints. The first
item is taken by `next`, the later ones in the loop. -/
def interleaved (site : CallFrame) (each : List (Option (List CallFrame))) :
    Option (List CallFrame) :=
  (firstFailing each).map fun (i, fs) =>
    site :: (if i = 0 then call 700 "interleave" "f(next(seq))" else call 706 "interleave" "f(x)") ::
      fs

/-- Items traversed by `items_view`, itself called from `site`: a lone item directly, several
through `interleave`. `each` holds the frames of each item's own visit. -/
def itemsViewed (site : CallFrame) (each : List (Option (List CallFrame))) :
    Option (List CallFrame) :=
  match each with
  | [one] => one.map fun fs => site :: call 713 "items_view" "traverser(items[0])" :: visiting fs
  | _ =>
    (interleaved
      (call 716 "items_view" "self.interleave(lambda: self.write(\", \"), traverser, items)")
      (each.map (·.map visiting))).map (site :: ·)

/-- Items traversed by `interleave` with `traverse` from `site`; `each` holds the frames of each
item's own visit. -/
def traversedItems (site : CallFrame) (each : List (Option (List CallFrame))) :
    Option (List CallFrame) :=
  interleaved site (each.map (·.map visiting))

def Literal.failureFrames : Literal → Option (List CallFrame)
  | .int n =>
    match integerText n with
    | .error _ =>
      some [call 1274 "visit_Constant" "self._write_constant(node.value)",
        ⟨1262, "_write_constant", "self.write(repr(value))", some (11, 11)⟩]
    | .ok _ => Option.none
  | _ => Option.none

/-- The frames of the first failing piece of a parameter list, the pieces given in the order
they are printed: the positional parameters with the defaults of the last ones, the annotation
of the starred parameter, the keyword-only parameters each with its default, and the annotation
of the double-starred parameter. -/
def parameterFailures (positional defaults : List (Option (List CallFrame)))
    (vararg : Option (List CallFrame)) (kwOnly kwDefaults : List (Option (List CallFrame)))
    (kwarg : Option (List CallFrame)) : Option (List CallFrame) :=
  let padded := List.replicate (positional.length - defaults.length) none ++ defaults
  let posPieces := (positional.zip padded).flatMap fun (a, d) =>
    [via (call 1564 "visit_arguments" "self.traverse(a)") a,
     via (call 1567 "visit_arguments" "self.traverse(d)") d]
  let varPiece := via (call 1582 "visit_arguments" "self.traverse(node.vararg.annotation)") vararg
  let kwPieces := (kwOnly.zip kwDefaults).flatMap fun (a, d) =>
    [via (call 1588 "visit_arguments" "self.traverse(a)") a,
     via (call 1591 "visit_arguments" "self.traverse(d)") d]
  let kwargPiece := via (call 1602 "visit_arguments" "self.traverse(node.kwarg.annotation)") kwarg
  (firstFailing (posPieces ++ [varPiece] ++ kwPieces ++ [kwargPiece])).map (·.2)

mutual

/-- The frames of the first failure in printing an expression, from its visitor down; none when
it prints. `avoid` marks the printer of a formatted field. -/
def Expr.failureFrames (avoid : Bool) : Expr → Option (List CallFrame)
  | .boolOp _ values =>
    interleaved
      (call 1475 "visit_BoolOp"
        "self.interleave(lambda: self.write(s), increasing_level_traverse, node.values)")
      ((Expr.failureFramesEach avoid values).map
        (via (call 1471 "increasing_level_traverse" "self.traverse(node)")))
  | .namedExpr target value =>
    via (call 853 "visit_NamedExpr" "self.traverse(node.target)") (target.failureFrames avoid) <|>
    via (call 855 "visit_NamedExpr" "self.traverse(node.value)") (value.failureFrames avoid)
  | .binOp left _ right =>
    via (call 1434 "visit_BinOp" "self.traverse(node.left)") (left.failureFrames avoid) <|>
    via (call 1437 "visit_BinOp" "self.traverse(node.right)") (right.failureFrames avoid)
  | .unaryOp _ operand =>
    via (call 1387 "visit_UnaryOp" "self.traverse(node.operand)") (operand.failureFrames avoid)
  | .lambda args body =>
    via (call 1616 "visit_Lambda" "self.traverse(node.args)") (args.failureFrames avoid) <|>
    via (call 1621 "visit_Lambda" "self.traverse(node.body)") (body.failureFrames avoid)
  | .ifExp test body orelse =>
    via (call 1323 "visit_IfExp" "self.traverse(node.body)") (body.failureFrames avoid) <|>
    via (call 1325 "visit_IfExp" "self.traverse(node.test)") (test.failureFrames avoid) <|>
    via (call 1328 "visit_IfExp" "self.traverse(node.orelse)") (orelse.failureFrames avoid)
  | .dict keys values =>
    interleaved (call 1357 "visit_Dict" "self.interleave(") (Expr.entryFailures avoid keys values)
  | .set elts =>
    traversedItems
      (call 1333 "visit_Set" "self.interleave(lambda: self.write(\", \"), self.traverse, node.elts)")
      (Expr.failureFramesEach avoid elts)
  | .listComp elt gens =>
    via (call 1282 "visit_ListComp" "self.traverse(node.elt)") (elt.failureFrames avoid) <|>
    Comprehension.failureFrames avoid (call 1284 "visit_ListComp" "self.traverse(gen)") gens
  | .setComp elt gens =>
    via (call 1294 "visit_SetComp" "self.traverse(node.elt)") (elt.failureFrames avoid) <|>
    Comprehension.failureFrames avoid (call 1296 "visit_SetComp" "self.traverse(gen)") gens
  | .dictComp key value gens =>
    via (call 1300 "visit_DictComp" "self.traverse(node.key)") (key.failureFrames avoid) <|>
    via (call 1302 "visit_DictComp" "self.traverse(node.value)") (value.failureFrames avoid) <|>
    Comprehension.failureFrames avoid (call 1304 "visit_DictComp" "self.traverse(gen)") gens
  | .generatorExp elt gens =>
    via (call 1288 "visit_GeneratorExp" "self.traverse(node.elt)") (elt.failureFrames avoid) <|>
    Comprehension.failureFrames avoid (call 1290 "visit_GeneratorExp" "self.traverse(gen)") gens
  | .await value =>
    via (call 935 "visit_Await" "self.traverse(node.value)") (value.failureFrames avoid)
  | .yield value =>
    via (call 943 "visit_Yield" "self.traverse(node.value)") (Expr.optionFailure avoid value)
  | .yieldFrom value =>
    via (call 951 "visit_YieldFrom" "self.traverse(node.value)") (value.failureFrames avoid)
  | .compare left _ comparators =>
    via (call 1455 "visit_Compare" "self.traverse(node.left)") (left.failureFrames avoid) <|>
    Expr.firstVia avoid (call 1458 "visit_Compare" "self.traverse(e)") comparators
  | .call func args keywords =>
    via (call 1490 "visit_Call" "self.traverse(node.func)") (func.failureFrames avoid) <|>
    Expr.firstVia avoid (call 1498 "visit_Call" "self.traverse(e)") args <|>
    Keyword.failureFrames avoid (call 1504 "visit_Call" "self.traverse(e)") keywords
  | .formattedValue value _ spec => Expr.fieldFrames value spec
  | .joinedStr values =>
    if avoid then
      (Expr.firstPart (call 1210 "_write_fstring_inner" "self._write_fstring_inner(value)")
        values).map (call 1159 "visit_JoinedStr" "self._write_fstring_inner(node)" :: ·)
    else Expr.firstPart (call 1171 "visit_JoinedStr" "self._write_fstring_inner(value)") values
  | .constant v => v.failureFrames
  | .attribute value _ =>
    via (call 1479 "visit_Attribute" "self.traverse(node.value)") (value.failureFrames avoid)
  | .subscript value slice =>
    via (call 1514 "visit_Subscript" "self.traverse(node.value)") (value.failureFrames avoid) <|>
    Expr.indexFrames avoid slice
  | .starred value =>
    via (call 1525 "visit_Starred" "self.traverse(node.value)") (value.failureFrames avoid)
  | .name _ => none
  | .list elts =>
    traversedItems
      (call 1278 "visit_List" "self.interleave(lambda: self.write(\", \"), self.traverse, node.elts)")
      (Expr.failureFramesEach avoid elts)
  | .tuple elts =>
    itemsViewed (call 1367 "visit_Tuple" "self.items_view(self.traverse, node.elts)")
      (Expr.failureFramesEach avoid elts)
  | .slice lower upper step =>
    via (call 1532 "visit_Slice" "self.traverse(node.lower)") (Expr.optionFailure avoid lower) <|>
    via (call 1535 "visit_Slice" "self.traverse(node.upper)") (Expr.optionFailure avoid upper) <|>
    via (call 1538 "visit_Slice" "self.traverse(node.step)") (Expr.optionFailure avoid step)
termination_by e => 2 * sizeOf e

def Expr.failureFramesEach (avoid : Bool) : List Expr → List (Option (List CallFrame))
  | [] => []
  | e :: es => e.failureFrames avoid :: Expr.failureFramesEach avoid es
termination_by es => 2 * sizeOf es

def Expr.optionFailure (avoid : Bool) : Option Expr → Option (List CallFrame)
  | none => none
  | some e => e.failureFrames avoid
termination_by o => 2 * sizeOf o

def Expr.optionFailureEach (avoid : Bool) : List (Option Expr) → List (Option (List CallFrame))
  | [] => []
  | o :: os => Expr.optionFailure avoid o :: Expr.optionFailureEach avoid os
termination_by os => 2 * sizeOf os

def Expr.firstVia (avoid : Bool) (site : CallFrame) : List Expr → Option (List CallFrame)
  | [] => none
  | e :: es => via site (e.failureFrames avoid) <|> Expr.firstVia avoid site es
termination_by es => 2 * sizeOf es

/-- The failure frames of each entry of a dictionary display, as `write_item` prints it: a key
and its value through `write_key_value_pair`, or the value of a `**` entry directly. -/
def Expr.entryFailures (avoid : Bool) :
    List (Option Expr) → List Expr → List (Option (List CallFrame))
  | some k :: ks, v :: vs =>
    ((via (call 1341 "write_key_value_pair" "self.traverse(k)") (k.failureFrames avoid) <|>
        via (call 1343 "write_key_value_pair" "self.traverse(v)") (v.failureFrames avoid)).map
      (call 1354 "write_item" "write_key_value_pair(k, v)" :: ·)) ::
      Expr.entryFailures avoid ks vs
  | none :: ks, v :: vs =>
    via (call 1352 "write_item" "self.traverse(v)") (v.failureFrames avoid) ::
      Expr.entryFailures avoid ks vs
  | _, _ => []
termination_by ks vs => 2 * (sizeOf ks + sizeOf vs)

/-- The failure frames of the index of a subscript: a non-empty tuple's items through
`items_view`, anything else traversed directly. -/
def Expr.indexFrames (avoid : Bool) : Expr → Option (List CallFrame)
  | .tuple (e :: es) =>
    itemsViewed (call 1518 "visit_Subscript" "self.items_view(self.traverse, node.slice.elts)")
      (Expr.failureFramesEach avoid (e :: es))
  | e => via (call 1520 "visit_Subscript" "self.traverse(node.slice)") (e.failureFrames avoid)
termination_by e => 2 * sizeOf e + 1

/-- The failure frames of a formatted field, from its visitor down: its expression, printed by a
fresh printer; then the backslash its text may need; then its format specification. -/
def Expr.fieldFrames (value : Expr) (spec : Option Expr) : Option (List CallFrame) :=
  ((value.failureFrames true).map fun fs =>
    ⟨1226, "visit_FormattedValue", "expr = unparse_inner(node.value)", some (7, 25)⟩ ::
      ⟨1223, "unparse_inner", "return unparser.visit(inner)", some (7, 21)⟩ ::
        call 818 "visit" "self.traverse(node)" :: visiting fs) <|>
  (match value.render true .or with
    | .ok e =>
      if e.toList.contains '\\' then some [call 1228 "visit_FormattedValue" "raise ValueError("]
      else none
    | .error _ => none) <|>
  (Expr.specFrames spec).map
    (call 1239 "visit_FormattedValue" "self._write_fstring_inner(node.format_spec)" :: ·)
termination_by 2 * (sizeOf value + sizeOf spec) + 1

def Expr.specFrames : Option Expr → Option (List CallFrame)
  | none => none
  | some s => s.partFrames
termination_by o => 2 * sizeOf o

/-- The failure frames of a part of a formatted string as `_write_fstring_inner` writes it: the
parts of a nested formatted string, text, or a field; anything else fails. -/
def Expr.partFrames : Expr → Option (List CallFrame)
  | .joinedStr values =>
    Expr.firstPart (call 1210 "_write_fstring_inner" "self._write_fstring_inner(value)") values
  | .constant (.str _ _) => none
  | .formattedValue value _ spec =>
    (Expr.fieldFrames value spec).map
      (call 1215 "_write_fstring_inner" "self.visit_FormattedValue(node)" :: ·)
  | _ =>
    some [call 1217 "_write_fstring_inner"
      "raise ValueError(f\"Unexpected node inside JoinedStr, \x7bnode!r\x7d\")"]
termination_by e => 2 * sizeOf e

def Expr.firstPart (site : CallFrame) : List Expr → Option (List CallFrame)
  | [] => none
  | v :: vs => (v.partFrames.map (site :: ·)) <|> Expr.firstPart site vs
termination_by vs => 2 * sizeOf vs

def Comprehension.failureFrames (avoid : Bool) (site : CallFrame) :
    List Comprehension → Option (List CallFrame)
  | [] => none
  | .mk target iter ifs _ :: rest =>
    (via (call 1312 "visit_comprehension" "self.traverse(node.target)")
        (target.failureFrames avoid) <|>
      via (call 1315 "visit_comprehension" "self.traverse(node.iter)")
        (iter.failureFrames avoid) <|>
      Expr.firstVia avoid (call 1318 "visit_comprehension" "self.traverse(if_clause)") ifs).map
      (site :: visiting ·) <|>
    Comprehension.failureFrames avoid site rest
termination_by gs => 2 * sizeOf gs

def Keyword.failureFrames (avoid : Bool) (site : CallFrame) : List Keyword → Option (List CallFrame)
  | [] => none
  | .mk _ value :: rest =>
    via site (via (call 1610 "visit_keyword" "self.traverse(node.value)")
        (value.failureFrames avoid)) <|>
      Keyword.failureFrames avoid site rest
termination_by ks => 2 * sizeOf ks

def Arg.failureFrames (avoid : Bool) : Arg → Option (List CallFrame)
  | .mk _ none => none
  | .mk _ (some hint) =>
    via (call 1551 "visit_arg" "self.traverse(node.annotation)") (hint.failureFrames avoid)
termination_by a => 2 * sizeOf a

def Arg.failureFramesEach (avoid : Bool) : List Arg → List (Option (List CallFrame))
  | [] => []
  | a :: rest => a.failureFrames avoid :: Arg.failureFramesEach avoid rest
termination_by as => 2 * sizeOf as

def Arg.hintFailure (avoid : Bool) : Option Arg → Option (List CallFrame)
  | some (.mk _ (some hint)) => hint.failureFrames avoid
  | _ => none
termination_by o => 2 * sizeOf o

def Arguments.failureFrames (avoid : Bool) : Arguments → Option (List CallFrame)
  | .mk posOnly args vararg kwOnly kwDefaults kwarg defaults =>
    parameterFailures (Arg.failureFramesEach avoid posOnly ++ Arg.failureFramesEach avoid args)
      (Expr.failureFramesEach avoid defaults) (Arg.hintFailure avoid vararg)
      (Arg.failureFramesEach avoid kwOnly) (Expr.optionFailureEach avoid kwDefaults)
      (Arg.hintFailure avoid kwarg)
termination_by a => 2 * sizeOf a

end

mutual

def Pattern.failureFrames : Pattern → Option (List CallFrame)
  | .value e => via (call 1644 "visit_MatchValue" "self.traverse(node.value)") (e.failureFrames false)
  | .singleton _ => none
  | .sequence ps =>
    traversedItems (call 1651 "visit_MatchSequence" "self.interleave(") (Pattern.failureEach ps)
  | .mapping keys ps _ =>
    interleaved (call 1670 "visit_MatchMapping" "self.interleave(")
      (((Expr.failureFramesEach false keys).zip (Pattern.failureEach ps)).map fun (k, p) =>
        via (call 1664 "write_key_pattern_pair" "self.traverse(k)") k <|>
          via (call 1666 "write_key_pattern_pair" "self.traverse(p)") p)
  | .classPattern cls ps attrs kps =>
    via (call 1683 "visit_MatchClass" "self.traverse(node.cls)") (cls.failureFrames false) <|>
    traversedItems (call 1686 "visit_MatchClass" "self.interleave(") (Pattern.failureEach ps) <|>
    (if attrs.isEmpty then none
     else interleaved (call 1698 "visit_MatchClass" "self.interleave(")
       ((Pattern.failureEach kps).map (via (call 1694 "write_attr_pattern" "self.traverse(pattern)"))))
  | .star _ => none
  | .capture (some q) (some _) =>
    via (call 1714 "visit_MatchAs" "self.traverse(node.pattern)") q.failureFrames
  | .capture _ _ => none
  | .alternatives ps =>
    traversedItems
      (call 1720 "visit_MatchOr"
        "self.interleave(lambda: self.write(\" | \"), self.traverse, node.patterns)")
      (Pattern.failureEach ps)
termination_by q => sizeOf q

def Pattern.failureEach : List Pattern → List (Option (List CallFrame))
  | [] => []
  | q :: qs => q.failureFrames :: Pattern.failureEach qs
termination_by qs => sizeOf qs

end

def WithItem.failureFrames (w : WithItem) : Option (List CallFrame) :=
  via (call 1629 "visit_withitem" "self.traverse(node.context_expr)")
      (w.context.failureFrames false) <|>
    via (call 1632 "visit_withitem" "self.traverse(node.optional_vars)")
      (Expr.optionFailure false w.vars)

mutual

def Stmt.failureFrames : Stmt → Option (List CallFrame)
  | .functionDef _ args body decorators returns isAsync =>
    let head := if isAsync then
        call 1035 "visit_AsyncFunctionDef" "self._function_helper(node, \"async def\")"
      else call 1032 "visit_FunctionDef" "self._function_helper(node, \"def\")"
    (Expr.firstVia false (call 1041 "_function_helper" "self.traverse(deco)") decorators <|>
      via (call 1045 "_function_helper" "self.traverse(node.args)") (args.failureFrames false) <|>
      via (call 1048 "_function_helper" "self.traverse(node.returns)")
        (Expr.optionFailure false returns) <|>
      (Stmt.documentedFrom body).map
        (call 1050 "_function_helper" "self._write_docstring_and_traverse_body(node)" :: ·)).map
      (head :: ·)
  | .classDef _ bases keywords body decorators =>
    Expr.firstVia false (call 1011 "visit_ClassDef" "self.traverse(deco)") decorators <|>
    Expr.firstVia false (call 1020 "visit_ClassDef" "self.traverse(e)") bases <|>
    Keyword.failureFrames false (call 1026 "visit_ClassDef" "self.traverse(e)") keywords <|>
    (Stmt.documentedFrom body).map
      (call 1029 "visit_ClassDef" "self._write_docstring_and_traverse_body(node)" :: ·)
  | .returnStmt value =>
    via (call 899 "visit_Return" "self.traverse(node.value)") (Expr.optionFailure false value)
  | .delete targets =>
    traversedItems
      (call 912 "visit_Delete"
        "self.interleave(lambda: self.write(\", \"), self.traverse, node.targets)")
      (Expr.failureFramesEach false targets)
  | .assign targets value =>
    Expr.firstVia false (call 873 "visit_Assign" "self.traverse(target)") targets <|>
    via (call 875 "visit_Assign" "self.traverse(node.value)") (value.failureFrames false)
  | .augAssign target _ value =>
    via (call 881 "visit_AugAssign" "self.traverse(node.target)") (target.failureFrames false) <|>
    via (call 883 "visit_AugAssign" "self.traverse(node.value)") (value.failureFrames false)
  | .annAssign target hint value _ =>
    via (call 888 "visit_AnnAssign" "self.traverse(node.target)") (target.failureFrames false) <|>
    via (call 890 "visit_AnnAssign" "self.traverse(node.annotation)") (hint.failureFrames false) <|>
    via (call 893 "visit_AnnAssign" "self.traverse(node.value)") (Expr.optionFailure false value)
  | .forLoop target iter body orelse isAsync =>
    let head := if isAsync then
        call 1056 "visit_AsyncFor" "self._for_helper(\"async for \", node)"
      else call 1053 "visit_For" "self._for_helper(\"for \", node)"
    (via (call 1061 "_for_helper" "self.traverse(node.target)") (target.failureFrames false) <|>
      via (call 1063 "_for_helper" "self.traverse(node.iter)") (iter.failureFrames false) <|>
      Stmt.listedFrom (call 1065 "_for_helper" "self.traverse(node.body)") body <|>
      Stmt.listedFrom (call 1069 "_for_helper" "self.traverse(node.orelse)") orelse).map
      (head :: ·)
  | .whileLoop test body orelse =>
    via (call 1091 "visit_While" "self.traverse(node.test)") (test.failureFrames false) <|>
    Stmt.listedFrom (call 1093 "visit_While" "self.traverse(node.body)") body <|>
    Stmt.listedFrom (call 1097 "visit_While" "self.traverse(node.orelse)") orelse
  | .ifStmt test body orelse =>
    via (call 1073 "visit_If" "self.traverse(node.test)") (test.failureFrames false) <|>
    Stmt.listedFrom (call 1075 "visit_If" "self.traverse(node.body)") body <|>
    Stmt.elifFrom orelse
  | .withBlock items body isAsync =>
    let (itemsLine, bodyLine, visitor) := if isAsync then (1107, 1109, "visit_AsyncWith")
      else (1101, 1103, "visit_With")
    traversedItems
      (call itemsLine visitor "self.interleave(lambda: self.write(\", \"), self.traverse, node.items)")
      (items.map WithItem.failureFrames) <|>
    Stmt.listedFrom (call bodyLine visitor "self.traverse(node.body)") body
  | .matchStmt subject cases =>
    via (call 1542 "visit_Match" "self.traverse(node.subject)") (subject.failureFrames false) <|>
    MatchCase.firstFailure cases
  | .raise none none => none
  | .raise none (some _) =>
    some [call 957 "visit_Raise"
      "raise ValueError(f\"Node can't use cause without an exception.\")"]
  | .raise (some exc) cause =>
    via (call 960 "visit_Raise" "self.traverse(node.exc)") (exc.failureFrames false) <|>
    via (call 963 "visit_Raise" "self.traverse(node.cause)") (Expr.optionFailure false cause)
  | .tryBlock body handlers orelse finalbody isStar =>
    let head := if isStar then call 992 "visit_TryStar" "self.do_visit_try(node)"
      else call 984 "visit_Try" "self.do_visit_try(node)"
    (Stmt.listedFrom (call 968 "do_visit_try" "self.traverse(node.body)") body <|>
      Handler.firstFailure handlers <|>
      Stmt.listedFrom (call 974 "do_visit_try" "self.traverse(node.orelse)") orelse <|>
      Stmt.listedFrom (call 978 "do_visit_try" "self.traverse(node.finalbody)") finalbody).map
      (head :: ·)
  | .assert test msg =>
    via (call 916 "visit_Assert" "self.traverse(node.test)") (test.failureFrames false) <|>
    via (call 919 "visit_Assert" "self.traverse(node.msg)") (Expr.optionFailure false msg)
  | .expr value =>
    via (call 848 "visit_Expr" "self.traverse(node.value)") (value.failureFrames false)
  | .importNames _ | .importFrom _ _ _ | .global _ | .nonlocal _ | .pass | .breakStmt
  | .continueStmt => none
termination_by s => 2 * sizeOf s

def Stmt.listedFrom (site : CallFrame) : List Stmt → Option (List CallFrame)
  | [] => none
  | s :: rest =>
    (s.failureFrames.map fun fs => site :: call 807 "traverse" "self.traverse(item)" :: visiting fs)
      <|> Stmt.listedFrom site rest
termination_by l => 2 * sizeOf l

/-- The first failing statement of a body that may open with a docstring, which is written apart
and cannot fail. -/
def Stmt.documentedFrom : List Stmt → Option (List CallFrame)
  | .expr (.constant (.str _ _)) :: rest =>
    Stmt.listedFrom
      (call 824 "_write_docstring_and_traverse_body" "self.traverse(node.body[1:])") rest
  | body =>
    Stmt.listedFrom (call 826 "_write_docstring_and_traverse_body" "self.traverse(node.body)") body
termination_by l => 2 * sizeOf l + 1

/-- The first failure in the `else` part of an `if` statement, a single `if` in it being
visited as an `elif` by the same visitor. -/
def Stmt.elifFrom : List Stmt → Option (List CallFrame)
  | [.ifStmt test body orelse] =>
    via (call 1080 "visit_If" "self.traverse(node.test)") (test.failureFrames false) <|>
    Stmt.listedFrom (call 1082 "visit_If" "self.traverse(node.body)") body <|>
    Stmt.elifFrom orelse
  | orelse => Stmt.listedFrom (call 1087 "visit_If" "self.traverse(node.orelse)") orelse
termination_by l => 2 * sizeOf l + 1

def Handler.firstFailure : List Handler → Option (List CallFrame)
  | [] => none
  | .mk type _ body :: rest =>
    (via (call 1000 "visit_ExceptHandler" "self.traverse(node.type)")
        (Expr.optionFailure false type) <|>
      Stmt.listedFrom (call 1005 "visit_ExceptHandler" "self.traverse(node.body)") body).map
      (call 970 "do_visit_try" "self.traverse(ex)" :: visiting ·) <|>
    Handler.firstFailure rest
termination_by l => 2 * sizeOf l

def MatchCase.firstFailure : List MatchCase → Option (List CallFrame)
  | [] => none
  | .mk pattern guard body :: rest =>
    (via (call 1636 "visit_match_case" "self.traverse(node.pattern)") pattern.failureFrames <|>
      via (call 1639 "visit_match_case" "self.traverse(node.guard)")
        (Expr.optionFailure false guard) <|>
      Stmt.listedFrom (call 1641 "visit_match_case" "self.traverse(node.body)") body).map
      (call 1545 "visit_Match" "self.traverse(case)" :: visiting ·) <|>
    MatchCase.firstFailure rest
termination_by l => 2 * sizeOf l

end

/-- The frames of the first failure in printing a module, from the printer's entry down; none
when it prints. -/
def Module.failureFrames (m : Module) : Option (List CallFrame) :=
  (Stmt.documentedFrom m).map fun fs =>
    ⟨1724, "unparse", "return unparser.visit(ast_obj)", some (7, 23)⟩ ::
      call 818 "visit" "self.traverse(node)" ::
        visiting (call 833 "visit_Module" "self._write_docstring_and_traverse_body(node)" :: fs)

end Obfuscation.Syntax
