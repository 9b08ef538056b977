import SymbolCensus.Analysis.File
import SymbolCensus.Proofs.Progress
import SymbolCensus.Proofs.ReadError

/-!
# All of a file or nothing

The analysis of a file can go wrong at every step: the file is read, its text is scanned and the
symbols are refined. An analysis reports the errors of reading that are of certain kinds in its
result; any other error leaves it without one.

The host is free: its files hold any bytes, its system has any faults, it writes paths in any way, its
locale has any encoding, and the codecs that the table does not name give any text to any bytes and
raise any error. Reading comes to an end, though, and does not run out of memory.

- `Host.Escapes`: the errors that are not reported; `Host.escapes_iff` picks them from all errors of
  reading.
- `Census.attempt_eq`: a text always has its census.
- `Analysis.allOrNothing_attempt`: unless an error escapes, an analysis yields all or nothing.
-/

namespace SymbolCensus

namespace Source

open Text

/-! ## Errors that are not reported -/

/-- The kinds of errors that an analysis reports. -/
def ErrorKind.reported : List ErrorKind := [.access, .decoding, .lookup]

theorem ErrorKind.not_mem_reported_iff {kind : ErrorKind} : kind ∉ reported ↔ kind = .other := by
  cases kind <;> decide

namespace Host

/-- The errors of reading that are not reported. Names and paths raise them before anything is
opened; after that only a codec does that the table does not name. -/
inductive Escapes (host : Host) (path encoding : CodePoints) : Raised → Prop
  | unwritableEncoding {fault : EncodeFault}
    (h : host.Fails path encoding (.unwritableEncoding fault)) :
    Escapes host path encoding ⟨.other, fault.message⟩
  | nullInEncoding (h : host.Fails path encoding .nullInEncoding) :
    Escapes host path encoding ⟨.other, "embedded null character"⟩
  | noAddress {reason : String} (h : host.Fails path encoding (.noAddress reason)) :
    Escapes host path encoding ⟨.other, reason⟩
  | nullInPath (h : host.Fails path encoding .nullInPath) :
    Escapes host path encoding ⟨.other, "embedded null byte"⟩
  | codec {raised : Raised} (h : host.Fails path encoding (.codec raised))
    (hkind : raised.kind ∉ ErrorKind.reported) : Escapes host path encoding raised

/-- **The errors that are not reported**, of all errors of reading. -/
theorem escapes_iff {host : Host} {path encoding : CodePoints} {raised : Raised} :
    host.Escapes path encoding raised ↔
      ∃ error, host.Fails path encoding error ∧ error.kind ∉ ErrorKind.reported ∧
        error.raised = raised := by
  simp only [ErrorKind.not_mem_reported_iff]
  constructor
  · intro h
    cases h with
    | unwritableEncoding h => exact ⟨_, h, rfl, rfl⟩
    | nullInEncoding h => exact ⟨_, h, rfl, rfl⟩
    | noAddress h => exact ⟨_, h, rfl, rfl⟩
    | nullInPath h => exact ⟨_, h, rfl, rfl⟩
    | codec h hkind => exact ⟨_, h, ErrorKind.not_mem_reported_iff.mp hkind, rfl⟩
  · rintro ⟨error, h, hkind, rfl⟩
    cases error with
    | unwritableEncoding fault => exact .unwritableEncoding h
    | nullInEncoding => exact .nullInEncoding h
    | noAddress reason => exact .noAddress h
    | nullInPath => exact .nullInPath h
    | codec raised => exact .codec h (ErrorKind.not_mem_reported_iff.mpr hkind)
    | access fault path => cases hkind
    | unknownEncoding name => cases hkind
    | noTextEncoding name => cases hkind
    | brokenOff fault => cases hkind
    | undecodable fault => cases hkind

end Host

namespace Surroundings

/-! ## Strings for paths and names -/

variable {surroundings : Surroundings} {path encoding : String}

theorem encodingFor_host (chosen : Option String) :
    surroundings.host.encodingFor (chosen.map .ofString) =
      .ofString (surroundings.encodingFor chosen) := by
  have hempty : ∀ name : String, CodePoints.ofString name ≠ [] ↔ name ≠ "" := fun name =>
    CodePoints.ofString_injective.ne_iff' rfl
  have hchosen : (chosen.map CodePoints.ofString).filter (· ≠ []) =
      (chosen.filter (· ≠ "")).map CodePoints.ofString := by
    rw [Option.filter_map]
    congr 2
    funext name
    exact decide_eq_decide.mpr (hempty name)
  rw [Host.encodingFor, hchosen, encodingFor]
  cases chosen.filter (· ≠ "") with
  | none => exact Option.getD_map ..
  | some name => rfl

/-- What a file holds by the codecs of the table is a string. -/
theorem eq_ofString_of_holds {text : CodePoints}
    (h : surroundings.host.Holds (.ofString path) (.ofString encoding) text) :
    ∃ source, withPlainNewlines text = .ofString source := by
  obtain ⟨name, bytes, -, hstand⟩ := h
  refine exists_source fun index hmem => ?_
  cases hstand with
  | table hcodec hwrites => simp at hmem
  | further htable hcodec hdecode => cases hcodec

theorem not_fails_unwritableEncoding (fault : EncodeFault) :
    ¬ surroundings.host.Fails (.ofString path) (.ofString encoding) (.unwritableEncoding fault) := by
  rintro ⟨h⟩
  exact not_isFirst_of_forall (isCharacter_ofString encoding) h

theorem not_fails_noAddress (reason : String) :
    ¬ surroundings.host.Fails (.ofString path) (.ofString encoding) (.noAddress reason) := by
  intro h
  obtain ⟨-, fault, hfirst, -⟩ := (Host.fails_noAddress_iff rfl).mp h
  exact not_isFirst_of_forall (hasBytes_ofString path) hfirst

theorem not_fails_codec (raised : Raised) :
    ¬ surroundings.host.Fails (.ofString path) (.ofString encoding) (.codec raised) := by
  intro h
  cases h with
  | lookup _ _ h => cases h
  | decoding _ _ hcodec _ => cases hcodec

end Surroundings

end Source

/-! ## Taking a census -/

/-- Reads a text from start to end and, if asked to, refines the roles of its symbols. Both the scan
and the refinement ask questions that may have no answer. -/
def Census.attempt (text : String) (refine : Bool) : Except Failure Census := do
  let (scan, outcome) := (Scan.ofText text).attemptRun
  outcome
  let census := ofScan scan
  if refine then
    (Refinement.pass { symbols := census.symbols } census.tokens).2
    return census.refined
  else return census

/-- **A text always has its census.** -/
theorem Census.attempt_eq (text : String) (refine : Bool) :
    Census.attempt text refine = .ok (Census.ofText text refine) := by
  have hrun : (Scan.ofText text).attemptRun = ((Scan.ofText text).run, .ok ()) :=
    Scan.attempt_eq (Scan.ofText text) .run
  have hnothing : ∀ token ∈ (Scan.ofText text).tokens.toList, token.Lexical :=
    List.forall_mem_nil _
  have hlexical := Scan.invariant_lexical.performAll hnothing [.run]
  have hpass : ∀ refinement : Refinement,
      (refinement.pass (ofScan (Scan.ofText text).run).tokens).2 = .ok () :=
    fun refinement => refinement.snd_pass_of_lexical hlexical
  unfold attempt ofText
  rw [hrun]
  cases refine with
  | false => rfl
  | true =>
    simp only [hpass]
    rfl

/-! ## The analysis of a file -/

namespace Analysis

open Source Text

/-- What an analysis tells its caller. -/
structure Result where
  success : Bool
  filename : CodePoints
  tokens : List Token
  symbols : SymbolTable
  diagnostics : List Diagnostic
  errors : List String
  className : Option String
deriving DecidableEq, Repr

/-- All that there is in a text. -/
def Result.ofCensus (path : CodePoints) (census : Census) : Result where
  success := true
  filename := path
  tokens := census.tokens
  symbols := census.symbols
  diagnostics := census.diagnostics
  errors := []
  className := census.className

/-- Nothing but the reason for it. -/
def Result.nothing (path : CodePoints) (reason : String) : Result where
  success := false
  filename := path
  tokens := []
  symbols := {}
  diagnostics := []
  errors := ["Failed to read source file: " ++ reason]
  className := none

def result (analysis : Analysis) : Result where
  success := analysis.succeeded
  filename := .ofString analysis.filename
  tokens := analysis.census.tokens
  symbols := analysis.census.symbols
  diagnostics := analysis.census.diagnostics
  errors := analysis.errors
  className := analysis.census.className

/-- What an analysis comes to unless an error of reading leaves it. -/
inductive Answer where
  | result (result : Result)
  /-- A text with surrogates was read and is analysed under the name of the path. A census is taken of
  strings only, so what that analysis comes to is left open. -/
  | beyond (path text : CodePoints)
deriving DecidableEq, Repr

section Attempt

variable (host : Host) (path : CodePoints) (chosen : Option CodePoints) (refine : Bool)

/-- The analysis of the file at a path. Only errors of reading are reported; scan and refinement would
raise theirs. -/
def attempt : Except Raised Answer :=
  match host.read path (host.encodingFor chosen) with
  | .error error =>
    if error.kind ∈ ErrorKind.reported then .ok (.result (.nothing path error.message))
    else .error error.raised
  | .ok text =>
    match text.string? with
    | none => .ok (.beyond path text)
    | some source =>
      match Census.attempt source refine with
      | .error failure => .error ⟨.other, failure.message⟩
      | .ok census => .ok (.result (.ofCensus path census))

variable {host path chosen refine}

theorem attempt_of_string {text : CodePoints} {source : String}
    (h : host.Holds path (host.encodingFor chosen) text)
    (hsource : withPlainNewlines text = .ofString source) :
    attempt host path chosen refine =
      .ok (.result (.ofCensus path (Census.ofText source refine))) := by
  rw [attempt, Host.read_of_holds h, hsource]
  dsimp only
  rw [CodePoints.string?_ofString]
  dsimp only
  rw [Census.attempt_eq]

theorem attempt_of_surrogate {text : CodePoints} {index : Fin 0x800}
    (h : host.Holds path (host.encodingFor chosen) text) (hmem : .surrogate index ∈ text) :
    attempt host path chosen refine = .ok (.beyond path (withPlainNewlines text)) := by
  rw [attempt, Host.read_of_holds h]
  dsimp only
  rw [CodePoints.string?_of_surrogate (surrogate_mem_withPlainNewlines_iff.mpr hmem)]

theorem exists_attempt_of_holds {text : CodePoints}
    (h : host.Holds path (host.encodingFor chosen) text) :
    ∃ answer, attempt host path chosen refine = .ok answer := by
  by_cases hsurrogate : ∃ index, .surrogate index ∈ text
  · obtain ⟨index, hmem⟩ := hsurrogate
    exact ⟨_, attempt_of_surrogate h hmem⟩
  · obtain ⟨source, hsource⟩ := exists_source (not_exists.mp hsurrogate)
    exact ⟨_, attempt_of_string h hsource⟩

theorem attempt_of_fails {error : ReadError}
    (h : host.Fails path (host.encodingFor chosen) error) :
    attempt host path chosen refine =
      if error.kind ∈ ErrorKind.reported then .ok (.result (.nothing path error.message))
      else .error error.raised := by
  rw [attempt, Host.read_of_fails h]

/-- **The errors that leave an analysis** are those of reading that are not reported. -/
theorem attempt_eq_error_iff {raised : Raised} :
    attempt host path chosen refine = .error raised ↔
      host.Escapes path (host.encodingFor chosen) raised := by
  rw [Host.escapes_iff]
  constructor
  · intro h
    cases hread : host.read path (host.encodingFor chosen) with
    | ok source =>
      obtain ⟨text, hholds, -⟩ := Host.read_eq_ok_iff.mp hread
      obtain ⟨answer, hanswer⟩ := exists_attempt_of_holds hholds
      rw [hanswer] at h
      cases h
    | error error =>
      have hfails := Host.read_eq_error_iff.mp hread
      rw [attempt_of_fails hfails] at h
      split at h
      next hkind => cases h
      next hkind => exact ⟨error, hfails, hkind, Except.error.inj h⟩
  · rintro ⟨error, hfails, hkind, rfl⟩
    rw [attempt_of_fails hfails, if_neg hkind]

/-- Where strings will do for the path and the name of the encoding, this is the analysis of the
file. -/
theorem attempt_eq_ofFile (surroundings : Surroundings) (path : String) (chosen : Option String) :
    attempt surroundings.host (.ofString path) (chosen.map .ofString) refine =
      match ofFile surroundings path (surroundings.encodingFor chosen) refine with
      | .ok analysis => .ok (.result analysis.result)
      | .error failure => .error ⟨.other, failure.message⟩ := by
  have hencoding := surroundings.encodingFor_host chosen
  obtain ⟨text, hholds⟩ | ⟨error, hfails⟩ :=
    surroundings.host.holds_or_fails (.ofString path) (.ofString (surroundings.encodingFor chosen))
  · obtain ⟨source, hsource⟩ := Surroundings.eq_ofString_of_holds hholds
    rw [attempt_of_string (hencoding ▸ hholds) hsource, ofFile, Host.read_of_holds hholds, hsource]
    dsimp only
    rw [CodePoints.ofList_characters_ofString]
    rfl
  · rw [attempt_of_fails (hencoding ▸ hfails), ofFile, Host.read_of_fails hfails]
    cases error with
    | unwritableEncoding fault =>
      exact absurd hfails (Surroundings.not_fails_unwritableEncoding fault)
    | nullInEncoding => rfl
    | noAddress reason => exact absurd hfails (Surroundings.not_fails_noAddress reason)
    | nullInPath => rfl
    | access fault path => rfl
    | unknownEncoding name => rfl
    | noTextEncoding name => rfl
    | brokenOff fault => rfl
    | undecodable fault => rfl
    | codec raised => exact absurd hfails (Surroundings.not_fails_codec raised)

variable (host path chosen refine)

/-- An analysis either yields what there is in the whole text of the file, or nothing. -/
structure AllOrNothing : Prop where
  /-- The file holds a text unless there is a reason why it cannot be read. -/
  holds_iff : (∃ text, host.Holds path (host.encodingFor chosen) text) ↔
    ∀ error, ¬ host.Fails path (host.encodingFor chosen) error
  /-- No error leaves an analysis but those of reading that are not reported. -/
  escapes_iff : ∀ raised, attempt host path chosen refine = .error raised ↔
    host.Escapes path (host.encodingFor chosen) raised
  /-- All: where the file holds a text, the analysis is the one of that text with plain line ends. -/
  all : ∀ text, host.Holds path (host.encodingFor chosen) text →
    (∀ index, .surrogate index ∉ text) →
    ∃ source result, withPlainNewlines text = .ofString source ∧
      attempt host path chosen refine = .ok (.result result) ∧
      result = .ofCensus path (Census.ofText source refine) ∧
      result.success = true ∧ result.filename = path ∧ result.errors = []
  /-- If that text holds surrogates, it is also read in full and analysed, which is followed no
  further. -/
  beyond : ∀ text index, host.Holds path (host.encodingFor chosen) text →
    .surrogate index ∈ text →
    attempt host path chosen refine = .ok (.beyond path (withPlainNewlines text))
  /-- Nothing: where reading fails, the reason is all that the analysis yields, if it is one that is
  reported. -/
  nothing : ∀ error, host.Fails path (host.encodingFor chosen) error →
    error.kind ∈ ErrorKind.reported →
    attempt host path chosen refine = .ok (.result (.nothing path error.message))
  /-- Where paths are written in UTF-8, a path has no address for a surrogate in it that stands for no
  byte, and its address holds the byte 0 for a NUL in it. -/
  addresses : host.address = addressOf → ∀ name, IsName (host.encodingFor chosen) name →
    (∀ reason, host.Fails path (host.encodingFor chosen) (.noAddress reason) ↔
      ∃ fault : EncodeFault, fault.IsFirst hasBytes path ∧ fault.message = reason) ∧
    (host.Fails path (host.encodingFor chosen) .nullInPath ↔
      (∀ point ∈ path, hasBytes point) ∧ .char '\x00' ∈ path)
  /-- Where strings will do, this is the analysis of the file. -/
  performed : ∀ (surroundings : Surroundings) (name : String) (option : Option String),
    host = surroundings.host → path = .ofString name → chosen = option.map .ofString →
    attempt host path chosen refine =
      match ofFile surroundings name (surroundings.encodingFor option) refine with
      | .ok analysis => .ok (.result analysis.result)
      | .error failure => .error ⟨.other, failure.message⟩

/-- **All or nothing.** Whatever path is asked for, in whatever encoding and from whatever host, an
analysis yields all of a file or nothing, unless the name of the encoding or the path cannot be
written or holds a NUL, or a codec that the table does not name raises an error that is not
reported. -/
theorem allOrNothing_attempt : AllOrNothing host path chosen refine where
  holds_iff := Host.exists_holds_iff
  escapes_iff _ := attempt_eq_error_iff
  all text hholds hplain := by
    obtain ⟨source, hsource⟩ := exists_source hplain
    exact ⟨source, _, hsource, attempt_of_string hholds hsource, rfl, rfl, rfl, rfl⟩
  beyond text index hholds hmem := attempt_of_surrogate hholds hmem
  nothing error hfails hkind := by rw [attempt_of_fails hfails, if_pos hkind]
  addresses haddress name hname := by
    have hnamed : ∃ name, IsName (host.encodingFor chosen) name := ⟨name, hname⟩
    refine ⟨fun reason => ?_, ?_⟩
    · rw [Host.fails_noAddress_iff haddress, and_iff_right hnamed]
    · rw [Host.fails_nullInPath_iff haddress, and_iff_right hnamed]
  performed surroundings name option hhost hpath hchosen := by
    subst hhost hpath hchosen
    exact attempt_eq_ofFile surroundings name option

example :
    attempt (Surroundings.host { openFile := fun _ => .error .missing }) (.ofString "a\x00b") none
      true = .error ⟨.other, "embedded null byte"⟩ := by
  rfl

-- The surrogate stands for the byte 255, which the name of the default encoding holds here.
example : attempt { host with encoding := some [.surrogate 0x4FF] } path none refine =
    .error ⟨.other, EncodeFault.message ⟨0xDCFF, 0, 1⟩⟩ := by
  rfl

end Attempt

end Analysis

end SymbolCensus
