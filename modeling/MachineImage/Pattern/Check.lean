import MachineImage.Pattern.Reader

/-!
Checking patterns. A pattern must read, its parts must not stand too deep in one another, and it
must do with what the matcher has: characters and ASCII classes, but no tables of Unicode, and no
matches that would cut a character in two.
-/
namespace MachineImage.Pattern

/-- Goes one part deeper. -/
def deeper (depth : Nat) (span : Span) : Except Fault Nat :=
  if depth < depthLimit then .ok (depth + 1) else .error { problem := .tooDeep, span }

mutual

def CharSet.checkDepth (depth : Nat) : CharSet → Except Fault Unit
  | .bracket span _ content =>
    match deeper depth span with
    | .error f => .error f
    | .ok depth => content.checkDepth depth
  | .union span items =>
    match deeper depth span with
    | .error f => .error f
    | .ok depth => CharSet.checkDepths depth items
  | .operation span _ left right =>
    match deeper depth span with
    | .error f => .error f
    | .ok depth =>
      match left.checkDepth depth with
      | .error f => .error f
      | .ok () => right.checkDepth depth
  | _ => .ok ()

def CharSet.checkDepths (depth : Nat) : List CharSet → Except Fault Unit
  | [] => .ok ()
  | set :: sets =>
    match set.checkDepth depth with
    | .error f => .error f
    | .ok () => CharSet.checkDepths depth sets

end

mutual

def Node.checkDepth (depth : Nat) : Node → Except Fault Unit
  | .charSet set => set.checkDepth depth
  | .repetition span operand =>
    match deeper depth span with
    | .error f => .error f
    | .ok depth => operand.checkDepth depth
  | .group span _ content =>
    match deeper depth span with
    | .error f => .error f
    | .ok depth => content.checkDepth depth
  | .concatenation span parts =>
    match deeper depth span with
    | .error f => .error f
    | .ok depth => Node.checkDepths depth parts
  | .alternation span branches =>
    match deeper depth span with
    | .error f => .error f
    | .ok depth => Node.checkDepths depth branches
  | _ => .ok ()

def Node.checkDepths (depth : Nat) : List Node → Except Fault Unit
  | [] => .ok ()
  | node :: nodes =>
    match node.checkDepth depth with
    | .error f => .error f
    | .ok () => Node.checkDepths depth nodes

end

/-- What a check carries through a pattern. -/
structure Scope where
  ignoresCase : Bool := false
  /-- Whether it is characters that match, or octets. -/
  isUnicode : Bool := true
  /-- Whether a border between words of Unicode has been met. -/
  hasWordBorder : Bool := false
  deriving DecidableEq, Repr

namespace Scope

def set (s : Scope) (flags : Flags) : Scope :=
  { s with
    ignoresCase := (flags.setting? 'i').getD s.ignoresCase
    isUnicode := (flags.setting? 'u').getD s.isUnicode }

/-- An octet beyond ASCII is no character. -/
def checkLiteral (s : Scope) (char : Literal) : Except Fault Unit :=
  if !s.isUnicode && char.isOctet && 0x80 ≤ char.char.toNat then
    .error { problem := .invalidUtf8, span := char.span }
  else .ok ()

/-- Sets of octets hold no characters beyond ASCII. -/
def checkMember (s : Scope) (char : Literal) : Except Fault Unit :=
  match s.checkLiteral char with
  | .error f => .error f
  | .ok () =>
    if !s.isUnicode && 0x80 ≤ char.char.toNat then
      .error { problem := .unicodeForbidden, span := char.span }
    else .ok ()

/-- To ignore case takes a table, save for octets. -/
def checkCase (s : Scope) (span : Span) : Except Fault Unit :=
  if s.ignoresCase && s.isUnicode then .error { problem := .caseUnavailable, span } else .ok ()

/-- All octets but a few would match inside a character. -/
def checkNegation (s : Scope) (span : Span) (isNegated : Bool) : Except Fault Unit :=
  if isNegated && !s.isUnicode then .error { problem := .invalidUtf8, span } else .ok ()

end Scope

/-- How much a set holds, as far as that decides whether its case matters. -/
inductive Extent
  | nothing
  | part
  | everything
  deriving DecidableEq, Repr

namespace Extent

def negate : Extent → Extent
  | .nothing => .everything
  | .part => .part
  | .everything => .nothing

def union : Extent → Extent → Extent
  | .nothing, y => y
  | x, .nothing => x
  | .everything, .everything => .everything
  | _, _ => .part

def combine (operator : SetOperator) (x y : Extent) : Extent :=
  if x = .part ∨ y = .part then .part
  else
    let isFull : Bool := match operator with
      | .intersection => x == .everything && y == .everything
      | .difference => x == .everything && y == .nothing
      | .symmetricDifference => x != y
    if isFull then .everything else .nothing

/-- Only of a part of all characters the case matters. -/
def checkCase (scope : Scope) (span : Span) (x : Extent) : Except Fault Unit :=
  if x = .part then scope.checkCase span else .ok ()

end Extent

/-- Whether a range holds all characters. -/
def isFullRange (first last : Literal) : Bool :=
  first.char == '\x00' && last.char == Char.ofNat 0x10FFFF

mutual

/-- Checks a set behind others that hold `seen`, and tells how much they hold together. All
characters by a range are a part, unless all are there already. -/
def CharSet.check (scope : Scope) (seen : Extent) : CharSet → Except Fault Extent
  | .empty _ => .ok seen
  | .literal char => (scope.checkMember char).map fun _ => .part
  | .range _ first last => do
    scope.checkMember first
    scope.checkMember last
    return if seen = .everything ∧ isFullRange first last then .everything else .part
  | .ascii span isNegated => do
    scope.checkCase span
    scope.checkNegation span isNegated
    return .part
  | .shorthand span isNegated =>
    if scope.isUnicode then .error { problem := .shorthandUnavailable, span }
    else (scope.checkNegation span isNegated).map fun _ => .part
  | .property span =>
    .error { problem := if scope.isUnicode then .propertyUnknown else .unicodeForbidden, span }
  | .bracket span isNegated content => do
    let extent ← content.check scope .nothing
    extent.checkCase scope span
    scope.checkNegation span isNegated
    return seen.union (if isNegated then extent.negate else extent)
  | .union _ items => CharSet.checkAll scope seen items
  | .operation _ operator left right => do
    let x ← left.check scope .nothing
    let y ← right.check scope .nothing
    y.checkCase scope right.span
    x.checkCase scope left.span
    return seen.union (.combine operator x y)

/-- Checks the parts of a set in order. -/
def CharSet.checkAll (scope : Scope) (seen : Extent) : List CharSet → Except Fault Extent
  | [] => .ok seen
  | set :: sets =>
    match set.check scope seen with
    | .error f => .error f
    | .ok seen => CharSet.checkAll scope seen sets

end

mutual

/-- Checks a part of a pattern and gives the scope behind it. -/
def Node.check (scope : Scope) : Node → Except Fault Scope
  | .empty _ => .ok scope
  | .edge _ => .ok scope
  | .flags _ given => .ok (scope.set given)
  | .wordBorder _ => .ok { scope with hasWordBorder := scope.hasWordBorder || scope.isUnicode }
  | .any span => (scope.checkNegation span true).map fun _ => scope
  | .literal char => do
    scope.checkLiteral char
    scope.checkCase char.span
    return scope
  | .charSet set => (set.check scope .nothing).map fun _ => scope
  | .repetition _ operand => operand.check scope
  | .group _ given content =>
    (content.check (scope.set given)).map fun inner =>
      { scope with hasWordBorder := inner.hasWordBorder }
  | .concatenation _ parts => Node.checkAll scope parts
  | .alternation _ branches => Node.checkAll scope branches

def Node.checkAll (scope : Scope) : List Node → Except Fault Scope
  | [] => .ok scope
  | node :: nodes =>
    match node.check scope with
    | .error f => .error f
    | .ok scope => Node.checkAll scope nodes

end

/-- Why a pattern cannot be used. -/
inductive Refusal
  | faulty (pattern : Text) (fault : Fault)
  /-- It asks for borders between words of Unicode. -/
  | wordBorder
  deriving DecidableEq, Repr

namespace Refusal

def message : Refusal → Text
  | .faulty _ _ => "error building NFA".toList
  | .wordBorder =>
    ("unsupported regex feature for DFAs: cannot build DFAs for regexes with Unicode word " ++
      "boundaries; switch to ASCII word boundaries, or heuristically enable Unicode word " ++
      "boundaries or use a different regex engine").toList

/-- The refusal and what it comes from. -/
def causes (r : Refusal) : List Text :=
  match r with
  | .faulty pattern fault => [r.message, "error parsing regex".toList, fault.report pattern]
  | .wordBorder => [r.message]

end Refusal

/-- The fault of a pattern, or the scope at its end. -/
def checkedScope (pattern : Text) : Except Fault Scope := do
  let node ← read pattern
  node.checkDepth 0
  node.check {}

def check (pattern : Text) : Except Refusal Unit :=
  match checkedScope pattern with
  | .error fault => .error (.faulty pattern fault)
  | .ok scope => if scope.hasWordBorder then .error .wordBorder else .ok ()

end MachineImage.Pattern
