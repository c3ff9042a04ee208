import BlockFolding.Pattern.Expr
import BlockFolding.Pattern.Reading
import BlockFolding.Unicode.Property

/-
  The meaning of a pattern

  Flags are resolved from left to right: a change holds up to the end of the group it stands in,
  across alternatives. Where Unicode is off, a part that could match half of a character is
  refused; that is any negated class, the sign for any character, and a byte above ASCII.
-/

namespace BlockFolding.Pattern

open Unicode (CharSet)

/-! ## Flags in force -/

/-- The flags in force that bear on what is matched. -/
structure Flags where
  caseless : Bool := false
  multiLine : Bool := false
  dotAll : Bool := false
  unicode : Bool := true
  crlf : Bool := false
  deriving DecidableEq, Repr

def Flags.set (flags : Flags) (change : FlagChange) : Flags :=
  match change.flag with
  | .caseless => { flags with caseless := change.on }
  | .multiLine => { flags with multiLine := change.on }
  | .dotAll => { flags with dotAll := change.on }
  | .unicode => { flags with unicode := change.on }
  | .crlf => { flags with crlf := change.on }
  | .swapGreed | .loose => flags

/-- The set closed under a difference in case, where the flags ask for that. -/
def Flags.fold (flags : Flags) (set : CharSet) : CharSet :=
  if flags.caseless then
    if flags.unicode then .caseless set else .asciiCaseless set
  else set

/-- The set or, if negated, its complement, which Unicode must be on for. -/
def Flags.negate (flags : Flags) (negated : Bool) (span : Span) (set : CharSet) :
    Except Fault CharSet :=
  if negated then
    if flags.unicode then .ok (.compl set) else .error { cause := .invalidUtf8, span }
  else .ok set

/-! ## Sets of characters -/

def AsciiClass.chars : AsciiClass → CharSet
  | alnum => .range '0' '9' ∪ .range 'A' 'Z' ∪ .range 'a' 'z'
  | alpha => .range 'A' 'Z' ∪ .range 'a' 'z'
  | ascii => .range '\x00' '\x7f'
  | blank => .ofList ['\t', ' ']
  | cntrl => .range '\x00' '\x1f' ∪ .single '\x7f'
  | digit => .range '0' '9'
  | graph => .range '!' '~'
  | lower => .range 'a' 'z'
  | print => .range ' ' '~'
  | punct => .range '!' '/' ∪ .range ':' '@' ∪ .range '[' (Char.ofNat 0x60) ∪ .range '\x7b' '~'
  | space => .ofList ['\t', '\n', '\x0b', '\x0c', '\r', ' ']
  | upper => .range 'A' 'Z'
  | word => asciiWord
  | xdigit => .range '0' '9' ∪ .range 'A' 'F' ∪ .range 'a' 'f'

def Shorthand.chars (flags : Flags) : Shorthand → CharSet
  | digit => if flags.unicode then Unicode.Category.decimalNumber else AsciiClass.digit.chars
  | space => if flags.unicode then Unicode.whiteSpace else AsciiClass.space.chars
  | word => if flags.unicode then Unicode.Binary.word else AsciiClass.word.chars

def PropertyQuery.lookup : PropertyQuery → Except Unicode.LookupFailure CharSet
  | .name property => Unicode.lookupName property
  | .value property word => Unicode.lookupValue property word

/-- The set that a property stands for, which Unicode must be on for. -/
def PropertyQuery.chars (flags : Flags) (span : Span) (query : PropertyQuery) :
    Except Fault CharSet :=
  if flags.unicode then
    match query.lookup with
    | .ok set => .ok (flags.fold set)
    | .error .unknownProperty => .error { cause := .propertyNotFound, span }
    | .error .unknownValue => .error { cause := .propertyValueNotFound, span }
  else .error { cause := .unicodeNotAllowed, span }

/-- The character of a literal, which is a byte above ASCII only where Unicode is on. -/
def Literal.resolve (flags : Flags) (l : Literal) : Except Fault Char :=
  if !flags.unicode && l.asByte && '\x7f' < l.char then
    .error { cause := .invalidUtf8, span := l.span }
  else .ok l.char

/-- The character of a literal in a class, which is outside ASCII only where Unicode is on. -/
def Literal.resolveInClass (flags : Flags) (l : Literal) : Except Fault Char := do
  let c ← l.resolve flags
  if !flags.unicode && '\x7f' < c then
    .error { cause := .unicodeNotAllowed, span := l.span }
  else .ok c

def ClassOp.apply (a b : CharSet) : ClassOp → CharSet
  | inter => .inter a b
  | diff => .diff a b
  | symmDiff => .symmDiff a b

mutual

def ClassTree.chars (flags : Flags) : ClassTree → Except Fault CharSet
  | .empty _ => return .empty
  | .literal l => return .single (← l.resolveInClass flags)
  | .range first last => do
    let first ← first.resolveInClass flags
    let last ← last.resolveInClass flags
    return .range first last
  | .shorthand s negated span => flags.negate negated span (s.chars flags)
  | .property query negated span => do
    flags.negate negated span (← query.chars flags span)
  | .ascii cls negated span => flags.negate negated span (flags.fold cls.chars)
  | .nested negated inner span => do
    flags.negate negated span (flags.fold (← inner.chars flags))
  | .union items _ => ClassTree.charsAll flags items
  | .op kind left right _ => do
    let left ← left.chars flags
    let right ← right.chars flags
    return kind.apply (flags.fold left) (flags.fold right)

def ClassTree.charsAll (flags : Flags) : List ClassTree → Except Fault CharSet
  | [] => return .empty
  | item :: rest => do
    let set ← item.chars flags
    return set ∪ (← ClassTree.charsAll flags rest)

end

/-! ## Expressions -/

def Anchor.look (flags : Flags) : Anchor → Look
  | lineStart =>
    if flags.multiLine then if flags.crlf then .crlfStart else .lineStart else .textStart
  | lineEnd => if flags.multiLine then if flags.crlf then .crlfEnd else .lineEnd else .textEnd
  | textStart => .textStart
  | textEnd => .textEnd
  | word edge => .word edge (if flags.unicode then .unicode else .ascii)

def anyChars (flags : Flags) : CharSet :=
  if flags.dotAll then .all
  else if flags.crlf then .compl (.ofList ['\n', '\r'])
  else .compl (.single '\n')

def Atom.meaning (flags : Flags) : Atom → Except Fault Expr
  | .literal l => return .chars (flags.fold (.single (← l.resolve flags)))
  | .anyChar span =>
    if flags.unicode then .ok (.chars (anyChars flags))
    else .error { cause := .invalidUtf8, span }
  | .anchor a _ => return .look (a.look flags)
  | .shorthand s negated span => return .chars (← flags.negate negated span (s.chars flags))
  | .property query negated span => do
    return .chars (← flags.negate negated span (← query.chars flags span))

mutual

/-- The meaning of a part of a pattern, and the flags in force after it. -/
def Tree.meaning (flags : Flags) : Tree → Except Fault (Expr × Flags)
  | .empty _ => return (.empty, flags)
  | .flags changes _ => return (.empty, changes.foldl Flags.set flags)
  | .atom a => return (← a.meaning flags, flags)
  | .bracketed negated inner span => do
    let set ← flags.negate negated span (flags.fold (← inner.chars flags))
    return (.chars set, flags)
  | .times inner least most _ => do
    let (e, flags) ← inner.meaning flags
    return (.times e least most, flags)
  | .group changes inner _ => do
    let (e, _) ← inner.meaning (changes.foldl Flags.set flags)
    return (e, flags)
  | .branches trees _ => Tree.meaningOfAny flags trees
  | .seq trees _ => Tree.meaningOfAll flags trees

def Tree.meaningOfAny (flags : Flags) : List Tree → Except Fault (Expr × Flags)
  | [] => return (.chars .empty, flags)
  | tree :: rest => do
    let (first, flags) ← tree.meaning flags
    let (others, flags) ← Tree.meaningOfAny flags rest
    return (.either first others, flags)

def Tree.meaningOfAll (flags : Flags) : List Tree → Except Fault (Expr × Flags)
  | [] => return (.empty, flags)
  | tree :: rest => do
    let (first, flags) ← tree.meaning flags
    let (others, flags) ← Tree.meaningOfAll flags rest
    return (.seq first others, flags)

end

/-- The expression of a pattern, or the fault for which it is refused. -/
def Expr.ofPattern (pattern : List Char) : Except Fault Expr := do
  let tree ← Tree.ofPattern pattern
  let (e, _) ← tree.meaning {}
  return e

end BlockFolding.Pattern
