import BlockFolding.Pattern.Meaning
import BlockFolding.Pattern.Report

/-
  Patterns

  A pattern is a regular expression that was accepted, kept with its text. A text is accepted or
  refused by itself alone, for one of two reasons: it writes no regular expression, and the refusal
  says what is wrong and where, or it writes one whose compiled form the compiler has no room for.
  What a form takes is the compiler's own affair, so a compiler is a value that everything which
  compiles patterns is given.
-/

namespace BlockFolding

/-- A regular expression with the text that writes it. -/
structure Pattern where
  text : String
  expr : Pattern.Expr

namespace Pattern

/-- A compiler of regular expressions, as far as it refuses some: how many bytes the compiled form
of a regular expression may take, and how many it takes of the one that a text writes. -/
structure Compiler where
  limit : Nat
  size : String → Nat
  /-- There is room for an opening brace behind a backslash, -/
  opening_fits : size "\\\x7b" ≤ limit
  /-- and for a closing one. -/
  closing_fits : size "\\\x7d" ≤ limit

/-- The compiler that leaves an expression as it is: there is no other form of it, and the usual
limit is never met. -/
def Compiler.direct : Compiler where
  limit := 10485760
  size _ := 0
  opening_fits := Nat.zero_le _
  closing_fits := Nat.zero_le _

inductive Reason where
  | fault (fault : Fault)
  | tooLarge (limit : Nat)
  deriving DecidableEq, Repr

end Pattern

/-- A text that is refused as a pattern, and why. -/
structure PatternError where
  text : String
  reason : Pattern.Reason
  deriving DecidableEq, Repr

def PatternError.message (error : PatternError) : String :=
  match error.reason with
  | .fault fault => fault.report error.text
  | .tooLarge limit => "Compiled regex exceeds size limit of " ++ toString limit ++ " bytes."

/-- The pattern that a text writes, if the compiler has room for it. -/
def Pattern.compile (text : String) (compiler : Compiler) : Except PatternError Pattern :=
  match Expr.ofPattern text.toList with
  | .error fault => .error { text, reason := .fault fault }
  | .ok expr =>
    if compiler.size text ≤ compiler.limit then .ok { text, expr }
    else .error { text, reason := .tooLarge compiler.limit }

theorem Pattern.compile_eq_error {text : String} {compiler : Compiler} {error : PatternError} :
    compile text compiler = .error error ↔
      (∃ fault, Expr.ofPattern text.toList = .error fault ∧
        error = { text, reason := .fault fault }) ∨
      (∃ expr, Expr.ofPattern text.toList = .ok expr) ∧ compiler.limit < compiler.size text ∧
        error = { text, reason := .tooLarge compiler.limit } := by
  unfold compile
  cases Expr.ofPattern text.toList with
  | error fault => simp [eq_comm]
  | ok expr =>
    dsimp only
    split
    · rename_i hfits
      simp [Nat.not_lt.2 hfits]
    · rename_i hlarge
      simp [Nat.not_le.1 hlarge, eq_comm]

/-- Whether the pattern matches somewhere in the line. -/
def Pattern.matches (pattern : Pattern) (line : String) : Bool := pattern.expr.isMatch line.toList

end BlockFolding
