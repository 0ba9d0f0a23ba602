import DocWeave.Text.Template.Value

/-! # Replacement templates

A template is literal text with replacement fields in braces; a doubled brace is a literal one.
A field is a name, then optional accessors (an attribute after a point, an index in brackets), an
optional conversion after an exclamation mark and an optional layout after a colon. A layout may
hold fields of its own, one level deep, and asks for a least width, an alignment, a fill
character and a greatest length. A template is filled with named texts; a field that counts
positions has nothing to refer to.
-/

namespace DocWeave

namespace Template

/-- A replacement field as it is written. -/
structure Field where
  name : Text
  conversion : Option Char
  layout : Text
  /-- Whether the layout holds fields of its own. -/
  nested : Bool
  deriving DecidableEq, Repr

/-- A stretch of literal text, or a field. -/
inductive Part where
  | literal (text : Text)
  | field (field : Field)
  deriving DecidableEq, Repr

/-- The name of a field and what follows it, with the character that ended it. Brackets protect
what stands between them. -/
def fieldName : (inBrackets : Bool) → Text → Except TemplateFault (Text × Option Char × Text)
  | _, [] => .ok ([], none, [])
  | true, c :: rest => do
    let (name, stop, after) ← fieldName (c != ']') rest
    return (c :: name, stop, after)
  | false, c :: rest =>
    if c == '\x7b' then .error (.malformed "unexpected '\x7b' in field name")
    else if c == '\x7d' || c == ':' || c == '!' then .ok ([], some c, rest)
    else do
      let (name, stop, after) ← fieldName (c == '[') rest
      return (c :: name, stop, after)

/-- The layout of a field up to its closing brace, and what follows; `depth` counts the braces
that are open. -/
def fieldLayout : (depth : Nat) → Text → Except TemplateFault (Text × Text)
  | _, [] => .error (.malformed "unmatched '\x7b' in format spec")
  | depth, c :: rest =>
    if c == '\x7d' && depth == 0 then .ok ([], rest)
    else do
      let inner := if c == '\x7b' then depth + 1 else if c == '\x7d' then depth - 1 else depth
      let (layout, after) ← fieldLayout inner rest
      return (c :: layout, after)

/-- A field with the layout that `rest` starts with, and what follows the field. -/
def withLayout (name : Text) (conversion : Option Char) (rest : Text) :
    Except TemplateFault (Field × Text) := do
  let (layout, after) ← fieldLayout 0 rest
  return (⟨name, conversion, layout, layout.contains '\x7b'⟩, after)

/-- The field after an opening brace, and what follows it. -/
def field (text : Text) : Except TemplateFault (Field × Text) := do
  let (name, stop, rest) ← fieldName false text
  match stop, rest with
  | none, _ => .error (.malformed "expected '\x7d' before end of string")
  | some '\x7d', _ => return (⟨name, none, [], false⟩, rest)
  | some '!', [] => .error (.malformed "end of string while looking for conversion specifier")
  | some '!', [_] => .error (.malformed "unmatched '\x7b' in format spec")
  | some '!', c :: '\x7d' :: after => return (⟨name, some c, [], false⟩, after)
  | some '!', c :: ':' :: after => withLayout name (some c) after
  | some '!', _ => .error (.malformed "expected ':' after conversion specifier")
  | some _, _ => withLayout name none rest

/-- The parts of a template, up to the first breach of the grammar. The fuel bounds the number of
parts; the length of the template always suffices. -/
def parts : (fuel : Nat) → Text → List Part × Option TemplateFault
  | 0, _ => ([], none)
  | _, [] => ([], none)
  | fuel + 1, c :: rest =>
    if c == '\x7b' then
      match rest with
      | [] => ([], some (.malformed "Single '\x7b' encountered in format string"))
      | '\x7b' :: after => let (more, fault) := parts fuel after; (.literal [c] :: more, fault)
      | _ =>
        match field rest with
        | .error fault => ([], some fault)
        | .ok (found, after) => let (more, fault) := parts fuel after; (.field found :: more, fault)
    else if c == '\x7d' then
      match rest with
      | '\x7d' :: after => let (more, fault) := parts fuel after; (.literal [c] :: more, fault)
      | _ => ([], some (.malformed "Single '\x7d' encountered in format string"))
    else let (more, fault) := parts fuel rest; (.literal [c] :: more, fault)

/-- The accessors that follow a field's first name. -/
def accessors : (fuel : Nat) → Text → List Accessor × Option TemplateFault
  | 0, _ => ([], none)
  | _, [] => ([], none)
  | fuel + 1, c :: rest =>
    if c == '.' then
      let name := rest.takeWhile fun d => d != '.' && d != '['
      if name.isEmpty then ([], some (.malformed "Empty attribute in format string"))
      else
        let (more, fault) := accessors fuel (rest.drop name.length)
        (.attribute name :: more, fault)
    else if c == '[' then
      let key := rest.takeWhile (· != ']')
      match rest.drop key.length with
      | [] => ([], some (.malformed "Missing ']' in format string"))
      | _ :: after =>
        if key.isEmpty then ([], some (.malformed "Empty attribute in format string"))
        else let (more, fault) := accessors fuel after; (.index key :: more, fault)
    else ([], some (.malformed "Only '.' or '[' may follow ']' in format field specifier"))

/-- The value that a field's name with its accessors refers to. -/
def lookup (values : List (Text × Text)) (name : Text) : Except TemplateFault Value := do
  let first := name.takeWhile fun d => d != '.' && d != '['
  if let some index ← number? first then throw (.noPosition index)
  if first.isEmpty then throw (.noPosition 0)
  match values.lookup first with
  | none => throw (.unknownName first)
  | some value =>
    let rest := name.drop first.length
    let (steps, fault) := accessors rest.length rest
    let reached ← steps.foldlM Value.access (.text value)
    match fault with
    | none => return reached
    | some fault => throw fault

/-- A value as its quoted form shows it; only texts are put in quotes. -/
def shown (quote : Text → Text) : Value → Text
  | .text t => quote t
  | value => value.display

/-- The value as a conversion shows it. -/
def convert (value : Value) : Option Char → Except TemplateFault Value
  | none => .ok value
  | some 's' => .ok (.text value.display)
  | some 'r' => .ok (.text (shown Text.quoted value))
  | some 'a' => .ok (.text (shown Text.quotedAscii value))
  | some c =>
    let shown := if 32 < c.toNat && c.toNat < 127 then [c]
      else "\\x" ++ Nat.toDigits 16 c.toNat
    .error (.malformed ("Unknown conversion specifier " ++ shown))

/-- How a value is laid out. -/
structure Layout where
  fill : Char
  align : Char
  width : Nat
  /-- The greatest length; `none` for any. -/
  precision : Option Nat
  deriving DecidableEq, Repr

/-- Whether a character is an alignment mark. -/
def isAlign (c : Char) : Bool := c == '<' || c == '>' || c == '=' || c == '^'

/-- The fill and alignment that a layout starts with, and what follows them. -/
def fillAlign : Text → Option Char × Option Char × Text
  | f :: a :: rest => if isAlign a then (some f, some a, rest)
    else if isAlign f then (none, some f, a :: rest) else (none, none, f :: a :: rest)
  | [a] => if isAlign a then (none, some a, []) else (none, none, [a])
  | [] => (none, none, [])

/-- The rest of `text` after `c` if it starts with it. -/
def eat (c : Char) (text : Text) : Bool × Text :=
  match text with
  | [] => (false, [])
  | d :: rest => if d == c then (true, rest) else (false, d :: rest)

/-- The precision that a layout continues with, if any, and what follows it. -/
def layoutPrecision (text : Text) : Except TemplateFault (Option Nat × Text) := do
  let (pointed, rest) := eat '.' text
  if !pointed then return (none, rest)
  let (digits, after) := Text.leadingDigits rest
  let value ← countable (Text.valueOfDigits digits)
  if digits.isEmpty then throw (.malformed "Format specifier missing precision")
  return (some value, after)

/-- A character as the wording of a fault shows it. -/
def shownCode (c : Char) : Text :=
  if 32 < c.toNat && c.toNat < 128 then [c] else "\\x" ++ Nat.toDigits 16 c.toNat

/-- Reads a layout for texts. Signs, coercions, alternate forms and separators are part of the
grammar but refused, as they only make sense for numbers. -/
def Layout.read (spec : Text) : Except TemplateFault Layout := do
  let (fill, align, rest) := fillAlign spec
  let sign := rest.head?.filter fun c => c == ' ' || c == '+' || c == '-'
  let rest := if sign.isSome then rest.drop 1 else rest
  let (coerced, rest) := eat 'z' rest
  let (alternate, rest) := eat '#' rest
  let (zeroed, rest) := if fill.isNone then eat '0' rest else (false, rest)
  let (digits, rest) := Text.leadingDigits rest
  let width ← countable (Text.valueOfDigits digits)
  let (comma, rest) := eat ',' rest
  let (underscore, rest) := eat '_' rest
  if comma && underscore || underscore && rest.head? == some ',' then
    throw (.malformed "Cannot specify both ',' and '_'.")
  let (precision, rest) ← layoutPrecision rest
  let type ← match rest with
    | [] => pure 's'
    | [c] => pure c
    | _ => throw (.malformed ("Invalid format specifier '" ++ spec ++ "' for object of type 'str'"))
  let separable := "defgEG%F".toList.contains type || underscore && "boxX".toList.contains type
  if (comma || underscore) && !separable then
    throw (.malformed ("Cannot specify '" ++ (if comma then "," else "_") ++ "' with '" ++
      shownCode type ++ "'."))
  if type != 's' then
    throw (.malformed ("Unknown format code '" ++ shownCode type ++ "' for object of type 'str'"))
  if sign == some ' ' then
    throw (.malformed "Space not allowed in string format specifier")
  if sign.isSome then throw (.malformed "Sign not allowed in string format specifier")
  if coerced then
    throw (.malformed "Negative zero coercion (z) not allowed in string format specifier")
  if alternate then
    throw (.malformed "Alternate form (#) not allowed in string format specifier")
  if align == some '=' then
    throw (.malformed "'=' alignment not allowed in string format specifier")
  return ⟨fill.getD (if zeroed then '0' else ' '), align.getD '<', width, precision⟩

/-- The value cut to the greatest length and padded to the least one. -/
def Layout.apply (layout : Layout) (value : Text) : Text :=
  let cut := match layout.precision with
    | none => value
    | some length => value.take length
  let missing := layout.width - cut.length
  let before := if layout.align == '>' then missing
    else if layout.align == '^' then missing / 2 else 0
  List.replicate before layout.fill ++ cut ++ List.replicate (missing - before) layout.fill

/-- The value as a layout shows it. -/
def layOut (value : Value) (spec : Text) : Except TemplateFault Text :=
  match value with
  | .text t => if spec.isEmpty then .ok t else do return (← Layout.read spec).apply t
  | value => if spec.isEmpty then .ok value.display else .error (.noLayout value.kindName)

/-- Fills a template; `depth` levels of layouts may hold fields of their own. -/
def fillTo (values : List (Text × Text)) : (depth : Nat) → Text → Except TemplateFault Text
  | 0, _ => .error (.malformed "Max string recursion exceeded")
  | depth + 1, template => do
    let (found, fault) := parts template.length template
    let texts ← found.mapM fun
      | .literal text => pure text
      | .field field => do
        let value ← lookup values field.name
        let converted ← convert value field.conversion
        let spec ← if field.nested then fillTo values depth field.layout else pure field.layout
        layOut converted spec
    match fault with
    | none => return texts.flatten
    | some fault => throw fault

/-- Fills a template with named values. -/
def fill (template : Text) (values : List (Text × Text)) : Except TemplateFault Text :=
  fillTo values 2 template

end Template

end DocWeave
