import BlockFolding.Log
import BlockFolding.Plan.Json
import BlockFolding.Plan.Listing
import BlockFolding.Plan.Report
import BlockFolding.Sample
import BlockFolding.Scan
import BlockFolding.Settings

/-
  Runs

  A run takes a text, settings and a compiler for their patterns and gives what is printed, or the
  reason why nothing is, and the log of what it did. It fails only if a pattern is needed and
  refused.
-/

namespace BlockFolding

/-- A run that failed: what it was about to do, and what was wrong with a pattern. -/
structure Failure where
  context : String
  cause : PatternError
  deriving DecidableEq, Repr

/-- The texts of a failure, what it was about to do first. -/
def Failure.chain (failure : Failure) : List String := [failure.context, failure.cause.message]

/-- What a run printed, or why it failed, and its log. -/
structure Outcome where
  records : List Log.Record
  result : Except Failure String

namespace Run

/-- The part of the program that logs what a run does. -/
def runTarget : String := "dict_fold"

/-- The part of the program that logs what a scan finds. -/
def scanTarget : String := "find_large_blocks::scanner"

/-- The pair of patterns of the settings, if they have one, or the failure for a refused one. -/
def patterns? (settings : Settings) (compiler : Pattern.Compiler) :
    Except Failure (Option PatternPair) :=
  if settings.usesPatterns then
    match PatternPair.withDefaults settings.openPattern settings.closePattern compiler with
    | .ok pair => .ok (some pair)
    | .error cause =>
      .error {
        context :=
          "Invalid block pattern (open: " ++ Settings.patternText settings.openPattern ++
          ", close: " ++ Settings.patternText settings.closePattern ++ ")"
        cause }
  else .ok none

def lineTest : Option PatternPair → LineTest
  | some pair => pair.lineTest
  | none => .braces

def patternRecords : Option PatternPair → List Log.Record
  | some pair => [⟨.debug, runTarget, "matching blocks with open /" ++ pair.opening.text ++
      "/ and close /" ++ pair.closing.text ++ "/"⟩]
  | none => []

def countRecord (source : String) (plan : FoldPlan) : Log.Record :=
  ⟨.info, runTarget, toString plan.size ++ " large block(s) found in " ++ Sample.language ++
    " sample (" ++ toString (Text.lineCount source) ++ " lines)"⟩

def ignoredRecord : Log.Record :=
  ⟨.warn, runTarget, "--show-source is ignored with JSON output"⟩

/-- What is printed in words, before the blanks at its end are cut off. -/
def wordsUntrimmed (source : String) (showSource : Bool) (plan : FoldPlan) : Checked String := do
  return (if showSource then plan.listing source else "") ++ (← plan.report)

def print (source : String) (settings : Settings) (plan : FoldPlan) : Checked String :=
  match settings.format with
  | .json => .ok plan.toJson.pretty
  | .text => return Text.trimEnd (← wordsUntrimmed source settings.showSource plan)

/-- The run that finds blocks and prints their plan. -/
def printBlocks (source : String) (settings : Settings) (pair : Option PatternPair) :
    Checked (List Log.Record × String) := do
  let scan ← Scan.ofText source (lineTest pair) largeThreshold
  let plan ← FoldPlan.build source scan.ranges
  let text ← print source settings plan
  let warnings :=
    if settings.format = .json ∧ settings.showSource then [ignoredRecord] else []
  return (patternRecords pair ++ scan.messages.map (⟨.debug, scanTarget, ·⟩) ++
    [countRecord source plan] ++ warnings, text)

end Run

def runOn (source : String) (settings : Settings) (compiler : Pattern.Compiler := .direct) :
    Checked Outcome :=
  let start : Log.Record := ⟨.debug, Run.runTarget, "config: " ++ settings.describe⟩
  match settings.columnOf with
  | some index =>
    let column := toString (endColumnSigned source index).toNat
    let record : Log.Record := ⟨.debug, Run.runTarget,
      "end column of line index " ++ Settings.intText index ++ ": " ++ column⟩
    .ok { records := [start, record], result := .ok column }
  | none =>
    match Run.patterns? settings compiler with
    | .error failure => .ok { records := [start], result := .error failure }
    | .ok pair => do
      let (records, text) ← Run.printBlocks source settings pair
      return { records := start :: records, result := .ok text }

def runSample (settings : Settings) (compiler : Pattern.Compiler := .direct) : Checked Outcome :=
  runOn Sample.source settings compiler

end BlockFolding
