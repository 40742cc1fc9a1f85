import ShapeMapper.Template.Token

/-!
# Template trees

What a template means, as a tree (`Tree`), and how it is read from the parts of its source
(`Tree.ofText`): one fold over the parts with the stack of the blocks that are still open.
-/

namespace ShapeMapper.Template

mutual

/-- An expression. -/
inductive Expr
  | name (name : Text)
  | string (value : Text)
  | number (value : Literal.Number)
  | bool (value : Bool)
  | absent
  /-- A list; `fixed` for one that cannot grow. -/
  | list (items : Exprs) (fixed : Bool)
  | record (entries : Entries)
  | field (object : Expr) (name : Text)
  | item (object : Expr) (key : Expr)
  /-- A filter with its arguments, each with the label that it may have. -/
  | filtered (value : Expr) (filter : Text) (labels : List (Option Text)) (arguments : Exprs)
  | negated (value : Expr)
  | choice (test yes no : Expr)
  deriving DecidableEq, Repr

/-- Several expressions. -/
inductive Exprs
  | nil
  | cons (head : Expr) (tail : Exprs)
  deriving DecidableEq, Repr

/-- The entries of a record. -/
inductive Entries
  | nil
  | cons (key value : Expr) (tail : Entries)
  deriving DecidableEq, Repr

end

/-- A template: its first node with all that follows. -/
inductive Tree
  | done
  | data (t : Text) (next : Tree)
  | output (value : Expr) (next : Tree)
  /-- A loop, with what stands in for it if there is nothing to loop over. -/
  | loop (x : Text) (range : Expr) (body orElse next : Tree)
  | branch (test : Expr) (yes no next : Tree)
  | inclusion (template : Expr) (next : Tree)
  deriving DecidableEq, Repr

/-- Why a template cannot be read. -/
inductive Fault
  | token (fault : TokenFault)
  | expectedExpression (found : Token)
  | expected (wanted : Text) (found : Token)
  | unexpected (found : Token)
  | expectedTagName
  | expectedFieldName
  /-- A loop whose variable is a constant. -/
  | constantVariable
  /-- An argument without a label after one that has a label. -/
  | lateArgument
  /-- A loop whose variable is the name of its state. -/
  | stateVariable
  /-- A tag that is not known, or not where it stands. `awaited` says whether an outer block
  wants it, and `open` is the innermost open block with the tags that go on with it. -/
  | unknownTag (name : Text) (awaited : Bool) (open? : Option (Text × List Text))
  /-- A block that is not closed, with the tags that go on with it. -/
  | unclosedBlock (name : Text) (tags : List Text)
  | unknownFilter (name : Text)
  deriving DecidableEq, Repr

namespace Fault

/-- A text between single quotes. -/
def quoted (t : Text) : Text :=
  '\'' :: t ++ ['\'']

/-- The tags of which one is wanted. -/
def alternatives (tags : List Text) : Text :=
  " or ".toList.intercalate (tags.map quoted)

/-- The sentence that names the innermost open block. -/
def innermost (name : Text) : Text :=
  " The innermost block that needs to be closed is ".toList ++ quoted name ++ ['.']

/-- A fault in words. -/
def message : Fault → Text
  | token fault => fault.message
  | expectedExpression found =>
    "Expected an expression, got ".toList ++ quoted found.describe
  | expected wanted .endOfTemplate =>
    "unexpected end of template, expected ".toList ++ quoted wanted ++ ['.']
  | expected wanted found =>
    "expected token ".toList ++ quoted wanted ++ ", got ".toList ++ quoted found.describe
  | unexpected found => "unexpected ".toList ++ quoted found.describe
  | expectedTagName => "tag name expected".toList
  | expectedFieldName => "expected name or number".toList
  | lateArgument => "invalid syntax for function call expression".toList
  | constantVariable => "can't assign to 'const'".toList
  | stateVariable => "Can't assign to special loop variable in for-loop".toList
  | unknownTag name awaited open? =>
    "Encountered unknown tag ".toList ++ quoted name ++ ['.'] ++
      match open? with
      | none => []
      | some (block, tags) =>
        (if awaited then
          " You probably made a nesting mistake. Jinja is expecting this tag, ".toList ++
            "but currently looking for ".toList
        else " Jinja was looking for the following tags: ".toList) ++
          alternatives tags ++ ['.'] ++ innermost block
  | unclosedBlock name tags =>
    "Unexpected end of template. Jinja was looking for the following tags: ".toList ++
      alternatives tags ++ ['.'] ++ innermost name
  | unknownFilter name => "No filter named ".toList ++ quoted name ++ ['.']

end Fault

/-! ### Expressions -/

/-- What a reader gives: a value and the tokens that follow it. -/
abbrev Read (α : Type) := α × List Token

/-- The first token of a list. -/
def current (tokens : List Token) : Token :=
  tokens.head?.getD .endOfTemplate

/-- The fault of meeting a token where it does not fit; no token at all is a fault of its
own. -/
def misfit (found : Token) (fault : Token → Fault) : Fault :=
  match found with
  | .bad fault => .token fault
  | found => fault found

/-- The tokens after a wanted one. -/
def expect (wanted : Token) (tokens : List Token) : Except Fault (List Token) :=
  match tokens with
  | found :: rest =>
    if found = wanted then .ok rest
    else .error (misfit found (.expected wanted.describe))
  | [] => .error (.expected wanted.describe .endOfTemplate)

/-- The constants that are written as words. -/
def constant? (name : Text) : Option Expr :=
  if name = "true".toList ∨ name = "True".toList then some (.bool true)
  else if name = "false".toList ∨ name = "False".toList then some (.bool false)
  else if name = "none".toList ∨ name = "None".toList then some .absent
  else none

/-- A string with the strings that follow it directly, and the tokens after them. -/
def joined (s : Text) : List Token → Text × List Token
  | .string s' :: tokens => joined (s ++ s') tokens
  | tokens => (s, tokens)

/-- The name of a filter, which may have dots inside. -/
def filterName (tokens : List Token) : Except Fault (Read Text) :=
  match tokens with
  | .name first :: rest => go first rest
  | tokens => .error (misfit (current tokens) (.expected "name".toList))
where
  /-- The rest of a name. -/
  go (name : Text) : List Token → Except Fault (Read Text)
    | .symbol ['.'] :: .name next :: rest => go (name ++ '.' :: next) rest
    | .symbol ['.'] :: rest => .error (misfit (current rest) (.expected "name".toList))
    | rest => .ok (name, rest)

/-- The arguments of a filter, each with the label that it may have. -/
structure Arguments where
  labels : List (Option Text) := []
  values : Exprs := .nil

/-- The label at the head of an argument, and what follows it. -/
def labelled? : List Token → Option Text × List Token
  | .name label :: .symbol ['='] :: tokens => (some label, tokens)
  | tokens => (none, tokens)

/-- Whether a token can stand only after an expression. -/
def endsExpression : Token → Bool
  | .endOfTag | .endOfOutput | .symbol [')'] => true
  | _ => false

mutual

/-- An expression, or several between commas as a fixed list. Only with `withChoice` may it be
a choice, and only in brackets of its own (`bracketed`) may it be empty. Each call spends one
unit of fuel, and as much as eight times the number of tokens is enough. -/
def sequence : (fuel : Nat) → (withChoice bracketed : Bool) → List Token → Except Fault (Read Expr)
  | 0, _, _, tokens => .error (misfit (current tokens) .unexpected)
  | fuel + 1, withChoice, bracketed, tokens => do
    if endsExpression (current tokens) then
      if bracketed then return (.list .nil true, tokens)
      else throw (.expectedExpression (current tokens))
    else
      let (e, tokens) ← if withChoice then choice fuel tokens else negation fuel tokens
      match tokens with
      | .symbol [','] :: tokens =>
        let (es, tokens) ← later fuel withChoice tokens
        return (.list (.cons e es) true, tokens)
      | tokens => return (e, tokens)

/-- The expressions after a comma, which may be none. -/
def later : (fuel : Nat) → (withChoice : Bool) → List Token → Except Fault (Read Exprs)
  | 0, _, tokens => .error (misfit (current tokens) .unexpected)
  | fuel + 1, withChoice, tokens => do
    if endsExpression (current tokens) then return (.nil, tokens)
    else
      let (e, tokens) ← if withChoice then choice fuel tokens else negation fuel tokens
      match tokens with
      | .symbol [','] :: tokens =>
        let (es, tokens) ← later fuel withChoice tokens
        return (.cons e es, tokens)
      | tokens => return (.cons e .nil, tokens)

/-- A choice, or what binds tighter. -/
def choice : (fuel : Nat) → List Token → Except Fault (Read Expr)
  | 0, tokens => .error (misfit (current tokens) .unexpected)
  | fuel + 1, tokens => do
    let (yes, tokens) ← negation fuel tokens
    conditions fuel yes tokens

/-- The conditions after the first operand of a choice. -/
def conditions : (fuel : Nat) → Expr → List Token → Except Fault (Read Expr)
  | 0, _, tokens => .error (misfit (current tokens) .unexpected)
  | fuel + 1, yes, .name ['i', 'f'] :: tokens => do
    let (test, tokens) ← negation fuel tokens
    let tokens ← expect (.name "else".toList) tokens
    let (no, tokens) ← choice fuel tokens
    conditions fuel (.choice test yes no) tokens
  | _ + 1, yes, tokens => .ok (yes, tokens)

/-- A negation, or what binds tighter. -/
def negation : (fuel : Nat) → List Token → Except Fault (Read Expr)
  | 0, tokens => .error (misfit (current tokens) .unexpected)
  | fuel + 1, .name ['n', 'o', 't'] :: tokens => do
    let (e, tokens) ← negation fuel tokens
    return (.negated e, tokens)
  | fuel + 1, tokens => primary fuel tokens

/-- A name, a literal or an expression in brackets, with the accesses and filters after it. -/
def primary : (fuel : Nat) → List Token → Except Fault (Read Expr)
  | 0, tokens => .error (misfit (current tokens) .unexpected)
  | fuel + 1, .name n :: tokens => accesses fuel ((constant? n).getD (.name n)) tokens
  | fuel + 1, .string s :: tokens =>
    let (s, tokens) := joined s tokens
    accesses fuel (.string s) tokens
  | fuel + 1, .number n :: tokens => accesses fuel (.number n) tokens
  | fuel + 1, .symbol ['('] :: tokens => do
    let (e, tokens) ← sequence fuel true true tokens
    let tokens ← expect (.symbol [')']) tokens
    accesses fuel e tokens
  | fuel + 1, .symbol ['['] :: tokens => do
    let (es, tokens) ← items fuel true true tokens
    accesses fuel (.list es false) tokens
  | fuel + 1, .symbol ['{'] :: tokens => do
    let (entries, tokens) ← entries fuel true tokens
    accesses fuel (.record entries) tokens
  | _ + 1, tokens => .error (misfit (current tokens) .unexpected)

/-- The items up to a closing square bracket. A comma stands between two items, so none
before the first one (`first`), and with `trailing` one may stand after the last. -/
def items : (fuel : Nat) → (trailing first : Bool) → List Token → Except Fault (Read Exprs)
  | 0, _, _, tokens => .error (misfit (current tokens) .unexpected)
  | fuel + 1, trailing, first, tokens => do
    if current tokens = .symbol [']'] then return (.nil, tokens.tail)
    let tokens ← if first then pure tokens else expect (.symbol [',']) tokens
    if trailing ∧ current tokens = .symbol [']'] then return (.nil, tokens.tail)
    let (e, tokens) ← choice fuel tokens
    let (es, tokens) ← items fuel trailing false tokens
    return (.cons e es, tokens)

/-- The keys and values up to a closing brace. -/
def entries : (fuel : Nat) → (first : Bool) → List Token → Except Fault (Read Entries)
  | 0, _, tokens => .error (misfit (current tokens) .unexpected)
  | fuel + 1, first, tokens => do
    if current tokens = .symbol ['\x7d'] then return (.nil, tokens.tail)
    let tokens ← if first then pure tokens else expect (.symbol [',']) tokens
    if current tokens = .symbol ['\x7d'] then return (.nil, tokens.tail)
    let (key, tokens) ← choice fuel tokens
    let tokens ← expect (.symbol [':']) tokens
    let (value, tokens) ← choice fuel tokens
    let (later, tokens) ← entries fuel false tokens
    return (.cons key value later, tokens)

/-- The arguments up to a closing bracket. After one with a label (`labelled`) there is none
without. -/
def arguments : (fuel : Nat) → (first labelled : Bool) → List Token → Except Fault (Read Arguments)
  | 0, _, _, tokens => .error (misfit (current tokens) .unexpected)
  | fuel + 1, first, labelled, tokens => do
    if current tokens = .symbol [')'] then return ({}, tokens.tail)
    let tokens ← if first then pure tokens else expect (.symbol [',']) tokens
    if current tokens = .symbol [')'] then return ({}, tokens.tail)
    let (label, tokens) := labelled? tokens
    if labelled ∧ label = none then throw .lateArgument
    let (e, tokens) ← choice fuel tokens
    let (later, tokens) ← arguments fuel false label.isSome tokens
    return ({ labels := label :: later.labels, values := .cons e later.values }, tokens)

/-- The accesses after an object. -/
def accesses : (fuel : Nat) → Expr → List Token → Except Fault (Read Expr)
  | 0, _, tokens => .error (misfit (current tokens) .unexpected)
  | fuel + 1, object, .symbol ['.'] :: .name n :: tokens =>
    accesses fuel (.field object n) tokens
  | fuel + 1, object, .symbol ['.'] :: .number (.integer n) :: tokens =>
    accesses fuel (.item object (.number (.integer n))) tokens
  | _ + 1, _, .symbol ['.'] :: tokens =>
    .error (misfit (current tokens) fun _ => .expectedFieldName)
  | fuel + 1, object, .symbol ['['] :: tokens => do
    let (keys, tokens) ← items fuel false true tokens
    match keys with
    | .cons key .nil => accesses fuel (.item object key) tokens
    | keys => accesses fuel (.item object (.list keys true)) tokens
  | fuel + 1, object, tokens => filters fuel object tokens

/-- The filters after a value. -/
def filters : (fuel : Nat) → Expr → List Token → Except Fault (Read Expr)
  | 0, _, tokens => .error (misfit (current tokens) .unexpected)
  | fuel + 1, value, .symbol ['|'] :: tokens => do
    let (filter, tokens) ← filterName tokens
    match tokens with
    | .symbol ['('] :: tokens =>
      let (arguments, tokens) ← arguments fuel true false tokens
      filters fuel (.filtered value filter arguments.labels arguments.values) tokens
    | tokens => filters fuel (.filtered value filter [] .nil) tokens
  | _ + 1, value, tokens => .ok (value, tokens)

end

/-- The expression of an output. -/
def outputExpr (tokens : List Token) : Except Fault (Read Expr) :=
  sequence (8 * tokens.length) true false tokens

/-- The expression of a tag, which may be a choice only in brackets. -/
def tagExpr (tokens : List Token) : Except Fault (Read Expr) :=
  sequence (8 * tokens.length) false false tokens

/-- The end of a tag after which a block goes on. A colon may stand before it. -/
def expectBlock (tokens : List Token) : Except Fault (List Token) :=
  match tokens with
  | .symbol [':'] :: tokens => expect .endOfTag tokens
  | tokens => expect .endOfTag tokens

/-! ### Blocks -/

/-- A block that is open. -/
inductive Block
  | loop (x : Text) (range : Expr)
  /-- A loop in the part that stands in for it. -/
  | loopElse (x : Text) (range : Expr) (body : Tree)
  /-- A branch in the arm with the given test, after some other arms. -/
  | branch (arms : List (Expr × Tree)) (test : Expr)
  /-- A branch after all its tests. -/
  | branchElse (arms : List (Expr × Tree))

namespace Block

/-- The tag that opens a block. -/
def name : Block → Text
  | loop .. | loopElse .. => "for".toList
  | branch .. | branchElse .. => "if".toList

/-- The tags that go on with a block. -/
def tags : Block → List Text
  | loop .. => ["endfor", "else"].map String.toList
  | loopElse .. => ["endfor"].map String.toList
  | branch .. => ["elif", "else", "endif"].map String.toList
  | branchElse .. => ["endif"].map String.toList

end Block

/-- A branch with several arms, each of which is tried if the tests before it fail. -/
def branches (orElse next : Tree) : List (Expr × Tree) → Tree
  | [] => next
  | [(test, yes)] => .branch test yes orElse next
  | (test, yes) :: arms => .branch test yes (branches orElse .done arms) next

/-- An open block with what was read before it, as a function of what follows. -/
structure Frame where
  block : Block
  before : Tree → Tree

/-- What was read of a template: the open blocks, the innermost first, and the nodes since
the last tag of a block, as a function of what follows. -/
structure Progress where
  frames : List Frame := []
  read : Tree → Tree := id

namespace Progress

/-- Reads one more node. -/
def push (p : Progress) (node : Tree → Tree) : Progress :=
  { p with read := fun next => p.read (node next) }

/-- Opens a block. -/
def openBlock (p : Progress) (block : Block) : Progress :=
  { frames := ⟨block, p.read⟩ :: p.frames }

/-- Goes on with the innermost block after a tag that was checked to be one of its tags, or
closes it. -/
def goOn (p : Progress) (frame : Frame) (frames : List Frame) (tag : Text)
    (tokens : List Token) : Except Fault Progress := do
  let body := p.read .done
  match frame.block, tag with
  | .loop x range, ['e', 'l', 's', 'e'] =>
    let _ ← expectBlock tokens
    return { frames := ⟨.loopElse x range body, frame.before⟩ :: frames }
  | .branch arms test, ['e', 'l', 's', 'e'] =>
    let _ ← expectBlock tokens
    return { frames := ⟨.branchElse (arms ++ [(test, body)]), frame.before⟩ :: frames }
  | .branch arms test, ['e', 'l', 'i', 'f'] =>
    let (next, tokens) ← tagExpr tokens
    let _ ← expectBlock tokens
    return { frames := ⟨.branch (arms ++ [(test, body)]) next, frame.before⟩ :: frames }
  | block, _ =>
    let _ ← expect .endOfTag tokens
    let node (next : Tree) : Tree :=
      match block with
      | .loop x range => .loop x range body .done next
      | .loopElse x range body' => .loop x range body' body next
      | .branch arms test => branches .done next (arms ++ [(test, body)])
      | .branchElse arms => branches body next arms
    return { frames, read := fun next => frame.before (node next) }

/-- Reads a tag that opens a block or stands alone. -/
def start (p : Progress) (tag : Text) (tokens : List Token) : Except Fault Progress := do
  if tag = "for".toList then
    match tokens with
    | .name x :: rest =>
      if x = "in".toList then throw (.expectedExpression (.name x))
      if (constant? x).isSome then throw .constantVariable
      let rest ← expect (.name "in".toList) rest
      if current rest = .name "recursive".toList then
        throw (.expectedExpression (current rest))
      let (range, rest) ← tagExpr rest
      let _ ← expectBlock rest
      return p.openBlock (.loop x range)
    | .string _ :: _ | .number _ :: _ => throw .constantVariable
    | tokens =>
      if endsExpression (current tokens) then throw (.expectedExpression (current tokens))
      else throw (misfit (current tokens) .unexpected)
  else if tag = "if".toList then
    let (test, rest) ← tagExpr tokens
    let _ ← expectBlock rest
    return p.openBlock (.branch [] test)
  else if tag = "include".toList then
    let (template, rest) ← choice (8 * tokens.length) tokens
    let _ ← expect .endOfTag rest
    return p.push (.inclusion template)
  else
    throw (.unknownTag tag (p.frames.any fun frame => frame.block.tags.contains tag)
      (p.frames.head?.map fun frame => (frame.block.name, frame.block.tags)))

/-- Reads one part of a template. -/
def step (p : Progress) : Part → Except Fault Progress
  | .data t => .ok (if t = [] then p else p.push (.data t))
  | .bad fault => .error (.token fault)
  | .output tokens => do
    let (value, tokens) ← outputExpr tokens
    let _ ← expect .endOfOutput tokens
    return p.push (.output value)
  | .tag (.name tag :: tokens) =>
    match p.frames with
    | frame :: frames =>
      if frame.block.tags.contains tag then p.goOn frame frames tag tokens
      else p.start tag tokens
    | [] => p.start tag tokens
  | .tag tokens => .error (misfit (current tokens) fun _ => .expectedTagName)

/-- The tree of a template that was read to its end. -/
def finish (p : Progress) : Except Fault Tree :=
  match p.frames with
  | [] => .ok (p.read .done)
  | frame :: _ => .error (.unclosedBlock frame.block.name frame.block.tags)

end Progress

/-! ### Misuse of names -/

/-- The names of the filters. -/
def filterNames : List Text :=
  ["join", "length", "ts_key", "ts_access"].map String.toList

/-- The name of the state of a loop. -/
def stateName : Text :=
  "loop".toList

mutual

/-- The first filter in an expression that does not exist; an outer filter comes before an
inner one. What a choice holds is looked up only when it is used. -/
def Expr.unknownFilter? : Expr → Option Text
  | .list items _ => items.unknownFilter?
  | .record entries => entries.unknownFilter?
  | .field object _ => object.unknownFilter?
  | .item object key => object.unknownFilter?.or key.unknownFilter?
  | .filtered value filter _ arguments =>
    if filterNames.contains filter then value.unknownFilter?.or arguments.unknownFilter?
    else some filter
  | .negated value => value.unknownFilter?
  | _ => none

/-- The first filter in several expressions that does not exist. -/
def Exprs.unknownFilter? : Exprs → Option Text
  | .nil => none
  | .cons e es => e.unknownFilter?.or es.unknownFilter?

/-- The first filter in the entries of a record that does not exist, entry by entry. -/
def Entries.unknownFilter? : Entries → Option Text
  | .nil => none
  | .cons key value es => key.unknownFilter?.or (value.unknownFilter?.or es.unknownFilter?)

end

/-- The fault of an expression with a filter that does not exist. -/
def Expr.misuse? (e : Expr) : Option Fault :=
  e.unknownFilter?.map .unknownFilter

namespace Tree

/-- Whether a loop in a template gives its variable the name of its state. -/
def hidesState : Tree → Bool
  | done => false
  | data _ next | output _ next | inclusion _ next => next.hidesState
  | loop x _ body orElse next =>
    x = stateName || body.hidesState || orElse.hidesState || next.hidesState
  | branch _ yes no next => yes.hidesState || no.hidesState || next.hidesState

/-- The first misuse of a name in a template: of the state of a loop, which counts from the
outermost loop around it, or of a filter that does not exist. The filters that stand directly
in a branch are looked up only when they are used (`lenient`). -/
def misuse? (lenient : Bool) : Tree → Option Fault
  | done => none
  | data _ next => next.misuse? lenient
  | output value next =>
    (if lenient then none else value.misuse?).or (next.misuse? lenient)
  | loop x range body orElse next =>
    if x = stateName || body.hidesState || orElse.hidesState then some .stateVariable
    else
      (if lenient then none else range.misuse?).or
        ((body.misuse? false).or ((orElse.misuse? false).or (next.misuse? lenient)))
  | branch _ yes no next =>
    (yes.misuse? true).or ((no.misuse? true).or (next.misuse? lenient))
  | inclusion template next =>
    (if lenient then none else template.misuse?).or (next.misuse? lenient)

/-- The template that a source writes. -/
def ofText (source : Text) : Except Fault Tree := do
  let progress ← (Part.ofText source).foldlM Progress.step {}
  let tree ← progress.finish
  match tree.misuse? false with
  | some fault => throw fault
  | none => return tree

end Tree

end ShapeMapper.Template
