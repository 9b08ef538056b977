import SymbolCensus.Proofs.Surrogate

/-!
# What a file holds, and why it cannot be read

Reading a file takes six steps, and each can fail. What a file holds and each way to fail are told by
the host and not by the steps. A step that fails hides those behind it, so a way to fail also says
what the steps before it found.

- `Host.Holds`: the text that a file holds, told by its bytes and not by a decoder.
- `Host.Fails`: the errors of reading, each with what leads to it.
- `Host.holds_or_fails`: there is nothing else, by going through the steps.
- `Host.read_eq_ok_iff`, `Host.read_eq_error_iff`: reading gives what the file holds and ends in the
  errors listed.
-/

namespace SymbolCensus.Source

open Text

/-! ## The name of the encoding -/

/-- An encoding has a name that can be looked up. -/
def IsName (encoding : CodePoints) (name : String) : Prop :=
  encoding = .ofString name ∧ '\x00' ∉ name.toList

section EncodingName

variable {encoding : CodePoints} {name : String}

theorem encodingName_ofString (name : String) : encodingName (.ofString name) =
    if '\x00' ∈ name.toList then .error .nullInEncoding else .ok name := by
  have hwritable : firstFault? isCharacter 0 (.ofString name) = none :=
    firstFault?_eq_none_iff.mpr (isCharacter_ofString name)
  rw [encodingName, hwritable]
  simp only [List.contains_eq_mem, CodePoints.char_mem_ofString_iff, decide_eq_true_eq,
    CodePoints.ofList_characters_ofString]

theorem encodingName_of_isName (h : IsName encoding name) : encodingName encoding = .ok name := by
  rw [h.1, encodingName_ofString, if_neg h.2]

theorem encodingName_of_isFirst {fault : EncodeFault} (h : fault.IsFirst isCharacter encoding) :
    encodingName encoding = .error (.unwritableEncoding fault) := by
  rw [encodingName, firstFault?_of_isFirst h]

/-- An encoding is named by a string, or a surrogate in it is to blame. -/
theorem eq_ofString_or_isFirst (encoding : CodePoints) : (∃ name, encoding = .ofString name) ∨
    ∃ fault : EncodeFault, fault.IsFirst isCharacter encoding := by
  cases hfault : firstFault? isCharacter 0 encoding with
  | none =>
    have hplain := forall_isCharacter_iff.mp (firstFault?_eq_none_iff.mp hfault)
    exact .inl ⟨_, CodePoints.eq_ofString_iff.mpr hplain⟩
  | some fault => exact .inr ⟨fault, firstFault?_eq_some_iff.mp hfault⟩

end EncodingName

namespace Host

/-! ## What the host tells -/

section Conditions

variable (host : Host) (path encoding : CodePoints)

/-- A path leads to an address at which a file can be opened. -/
def Leads (address : List UInt8) : Prop :=
  host.address path = .ok address ∧ 0 ∉ address

/-- The file at a path is opened, and the encoding has a name to be looked up next. -/
def Opens (name : String) (content : Except AccessFault (List UInt8)) : Prop :=
  IsName encoding name ∧ ∃ address, host.Leads path address ∧ host.openFile address = .ok content

/-- Some codec makes text of bytes under the name of an encoding. -/
def Knows (name : String) : Prop :=
  (∃ standard, host.tableCodec? name = some (.text standard)) ∨
    host.tableCodec? name = none ∧ ∃ decode, host.codecs (host.codecName name) = some (.ok decode)

/-- By the codec of a name, bytes stand for a text. -/
inductive StandFor (name : String) (bytes : List UInt8) : CodePoints → Prop
  | table {standard : Encoding} {text : List Char}
    (hcodec : host.tableCodec? name = some (.text standard)) (h : standard.Writes text bytes) :
    StandFor name bytes (text.map .char)
  | further {decode : List UInt8 → Except Raised CodePoints} {text : CodePoints}
    (htable : host.tableCodec? name = none)
    (hcodec : host.codecs (host.codecName name) = some (.ok decode))
    (h : decode bytes = .ok text) : StandFor name bytes text

/-- The file at a path holds a text. -/
def Holds (text : CodePoints) : Prop :=
  ∃ name bytes, host.Opens path encoding name (.ok bytes) ∧ host.StandFor name bytes text

/-- Reading the file at a path fails. -/
inductive Fails : ReadError → Prop
  | unwritableEncoding {fault : EncodeFault} (h : fault.IsFirst isCharacter encoding) :
    Fails (.unwritableEncoding fault)
  | nullInEncoding {name : String} (hencoding : encoding = .ofString name)
    (h : '\x00' ∈ name.toList) : Fails .nullInEncoding
  | noAddress {name reason : String} (hname : IsName encoding name)
    (h : host.address path = .error reason) : Fails (.noAddress reason)
  | nullInPath {name : String} {address : List UInt8} (hname : IsName encoding name)
    (haddress : host.address path = .ok address) (h : 0 ∈ address) : Fails .nullInPath
  | access {name : String} {address : List UInt8} {fault : AccessFault}
    (hname : IsName encoding name) (hleads : host.Leads path address)
    (h : host.openFile address = .error fault) : Fails (.access fault path)
  | unknownEncoding {name : String} {content : Except AccessFault (List UInt8)}
    (hopens : host.Opens path encoding name content) (htable : host.tableCodec? name = none)
    (h : host.codecs (host.codecName name) = none) :
    Fails (.unknownEncoding (host.codecName name))
  | noTextEncoding {name : String} {content : Except AccessFault (List UInt8)}
    (hopens : host.Opens path encoding name content)
    (h : host.tableCodec? name = some .transform) : Fails (.noTextEncoding (host.codecName name))
  /-- Looking for a codec raises an error. -/
  | lookup {name : String} {content : Except AccessFault (List UInt8)} {raised : Raised}
    (hopens : host.Opens path encoding name content) (htable : host.tableCodec? name = none)
    (h : host.codecs (host.codecName name) = some (.error raised)) : Fails (.codec raised)
  | brokenOff {name : String} {fault : AccessFault}
    (hopens : host.Opens path encoding name (.error fault)) (hknows : host.Knows name) :
    Fails (.brokenOff fault)
  | undecodable {name : String} {bytes : List UInt8} {standard : Encoding} {fault : DecodeFault}
    (hopens : host.Opens path encoding name (.ok bytes))
    (htable : host.tableCodec? name = some (.text standard))
    (h : standard.decode bytes = .error fault) : Fails (.undecodable fault)
  /-- A codec that the table does not name raises an error on decoding. -/
  | decoding {name : String} {bytes : List UInt8}
    {decode : List UInt8 → Except Raised CodePoints} {raised : Raised}
    (hopens : host.Opens path encoding name (.ok bytes)) (htable : host.tableCodec? name = none)
    (hcodec : host.codecs (host.codecName name) = some (.ok decode))
    (h : decode bytes = .error raised) : Fails (.codec raised)

end Conditions

variable {host : Host} {path encoding : CodePoints}

/-- The file is opened, or there is a reason why not. -/
theorem opens_or_fails (host : Host) (path encoding : CodePoints) :
    (∃ name content, host.Opens path encoding name content) ∨
      ∃ error, host.Fails path encoding error := by
  obtain ⟨name, rfl⟩ | ⟨fault, hfault⟩ := eq_ofString_or_isFirst encoding
  case inr => exact .inr ⟨_, .unwritableEncoding hfault⟩
  by_cases hnull : '\x00' ∈ name.toList
  · exact .inr ⟨_, .nullInEncoding rfl hnull⟩
  have hname : IsName (.ofString name) name := ⟨rfl, hnull⟩
  cases haddress : host.address path with
  | error reason => exact .inr ⟨_, .noAddress hname haddress⟩
  | ok address =>
  by_cases hzero : 0 ∈ address
  · exact .inr ⟨_, .nullInPath hname haddress hzero⟩
  cases hopen : host.openFile address with
  | error fault => exact .inr ⟨_, .access hname ⟨haddress, hzero⟩ hopen⟩
  | ok content => exact .inl ⟨name, content, hname, address, ⟨haddress, hzero⟩, hopen⟩

/-- Some codec is known by a name, or there is a reason why an open file is of no use. -/
theorem knows_or_fails {name : String} {content : Except AccessFault (List UInt8)}
    (hopens : host.Opens path encoding name content) :
    host.Knows name ∨ ∃ error, host.Fails path encoding error := by
  cases htable : host.tableCodec? name with
  | some codec =>
    cases codec with
    | text standard => exact .inl (.inl ⟨standard, htable⟩)
    | transform => exact .inr ⟨_, .noTextEncoding hopens htable⟩
  | none =>
    cases hcodec : host.codecs (host.codecName name) with
    | none => exact .inr ⟨_, .unknownEncoding hopens htable hcodec⟩
    | some found =>
      cases found with
      | error raised => exact .inr ⟨_, .lookup hopens htable hcodec⟩
      | ok decode => exact .inl (.inr ⟨htable, decode, hcodec⟩)

/-- **What a file holds, or why it cannot be read**: one step after the other. -/
theorem holds_or_fails (host : Host) (path encoding : CodePoints) :
    (∃ text, host.Holds path encoding text) ∨ ∃ error, host.Fails path encoding error := by
  obtain ⟨name, content, hopens⟩ | hfails := opens_or_fails host path encoding
  case inr => exact .inr hfails
  obtain hknows | hfails := knows_or_fails hopens
  case inr => exact .inr hfails
  cases content with
  | error fault => exact .inr ⟨_, .brokenOff hopens hknows⟩
  | ok bytes =>
    obtain ⟨standard, htable⟩ | ⟨htable, decode, hcodec⟩ := hknows
    · cases hdecode : standard.decode bytes with
      | error fault => exact .inr ⟨_, .undecodable hopens htable hdecode⟩
      | ok text =>
        have hwrites := Encoding.decode_eq_ok_iff.mp hdecode
        exact .inl ⟨_, name, bytes, hopens, .table htable hwrites⟩
    · cases hdecode : decode bytes with
      | error raised => exact .inr ⟨_, .decoding hopens htable hcodec hdecode⟩
      | ok text => exact .inl ⟨text, name, bytes, hopens, .further htable hcodec hdecode⟩

/-! ## Reading -/

theorem fileAddress_of_leads {address : List UInt8} (h : host.Leads path address) :
    host.fileAddress path = .ok address := by
  rw [fileAddress, h.1]
  exact if_neg (by simpa using h.2)

theorem fileAddress_of_zero {address : List UInt8} (haddress : host.address path = .ok address)
    (h : 0 ∈ address) : host.fileAddress path = .error .nullInPath := by
  rw [fileAddress, haddress]
  exact if_pos (by simpa using h)

theorem read_of_leads {name : String} {address : List UInt8} (hname : IsName encoding name)
    (hleads : host.Leads path address) : host.read path encoding = do
      let content ← (host.openFile address).mapError (.access · path)
      let decode ← host.decoder name
      let bytes ← content.mapError .brokenOff
      let text ← decode bytes
      return withPlainNewlines text := by
  rw [read, encodingName_of_isName hname, fileAddress_of_leads hleads]
  rfl

theorem read_of_opens {name : String} {content : Except AccessFault (List UInt8)}
    (h : host.Opens path encoding name content) : host.read path encoding = do
      let decode ← host.decoder name
      let bytes ← content.mapError .brokenOff
      let text ← decode bytes
      return withPlainNewlines text := by
  obtain ⟨hname, address, hleads, hopen⟩ := h
  rw [read_of_leads hname hleads, hopen]
  exact pure_bind content _

section Decoder

variable {name : String}

theorem decoder_of_table {standard : Encoding}
    (h : host.tableCodec? name = some (.text standard)) : host.decoder name =
      .ok fun bytes => ((standard.decode bytes).map (·.map .char)).mapError .undecodable := by
  unfold decoder
  rw [h]

theorem decoder_of_transform (h : host.tableCodec? name = some .transform) :
    host.decoder name = .error (.noTextEncoding (host.codecName name)) := by
  unfold decoder
  rw [h]

theorem decoder_of_further {decode : List UInt8 → Except Raised CodePoints}
    (htable : host.tableCodec? name = none)
    (h : host.codecs (host.codecName name) = some (.ok decode)) :
    host.decoder name = .ok fun bytes => (decode bytes).mapError .codec := by
  unfold decoder
  rw [htable, h]

theorem decoder_of_raised {raised : Raised} (htable : host.tableCodec? name = none)
    (h : host.codecs (host.codecName name) = some (.error raised)) :
    host.decoder name = .error (.codec raised) := by
  unfold decoder
  rw [htable, h]

theorem decoder_of_unknown (htable : host.tableCodec? name = none)
    (h : host.codecs (host.codecName name) = none) :
    host.decoder name = .error (.unknownEncoding (host.codecName name)) := by
  unfold decoder
  rw [htable, h]

end Decoder

theorem exists_decoder {name : String} (h : host.Knows name) :
    ∃ decode, host.decoder name = .ok decode := by
  obtain ⟨standard, htable⟩ | ⟨htable, decode, hcodec⟩ := h
  · exact ⟨_, decoder_of_table htable⟩
  · exact ⟨_, decoder_of_further htable hcodec⟩

/-- The last steps, which go by the bytes of the file and by the decoder. -/
theorem read_of_decoder {name : String} {bytes : List UInt8}
    {decode : List UInt8 → Except ReadError CodePoints}
    (hopens : host.Opens path encoding name (.ok bytes)) (h : host.decoder name = .ok decode) :
    host.read path encoding = (decode bytes).map withPlainNewlines := by
  rw [read_of_opens hopens, h]
  rfl

theorem read_of_holds {text : CodePoints} (h : host.Holds path encoding text) :
    host.read path encoding = .ok (withPlainNewlines text) := by
  obtain ⟨name, bytes, hopens, hstand⟩ := h
  cases hstand with
  | table hcodec hwrites =>
    rw [read_of_decoder hopens (decoder_of_table hcodec), Encoding.decode_eq_ok_iff.mpr hwrites]
    rfl
  | further htable hcodec hdecode =>
    rw [read_of_decoder hopens (decoder_of_further htable hcodec), hdecode]
    rfl

theorem read_of_fails {error : ReadError} (h : host.Fails path encoding error) :
    host.read path encoding = .error error := by
  cases h with
  | unwritableEncoding h =>
    rw [read, encodingName_of_isFirst h]
    rfl
  | nullInEncoding hencoding h =>
    rw [read, hencoding, encodingName_ofString, if_pos h]
    rfl
  | noAddress hname h =>
    rw [read, encodingName_of_isName hname, fileAddress, h]
    rfl
  | nullInPath hname haddress h =>
    rw [read, encodingName_of_isName hname, fileAddress_of_zero haddress h]
    rfl
  | access hname hleads h =>
    rw [read_of_leads hname hleads, h]
    rfl
  | unknownEncoding hopens htable h =>
    rw [read_of_opens hopens, decoder_of_unknown htable h]
    rfl
  | noTextEncoding hopens h =>
    rw [read_of_opens hopens, decoder_of_transform h]
    rfl
  | lookup hopens htable h =>
    rw [read_of_opens hopens, decoder_of_raised htable h]
    rfl
  | brokenOff hopens hknows =>
    obtain ⟨decode, hdecoder⟩ := exists_decoder hknows
    rw [read_of_opens hopens, hdecoder]
    rfl
  | undecodable hopens htable h =>
    rw [read_of_decoder hopens (decoder_of_table htable), h]
    rfl
  | decoding hopens htable hcodec h =>
    rw [read_of_decoder hopens (decoder_of_further htable hcodec), h]
    rfl

/-- **Reading gives what the file holds**, with plain line ends. -/
theorem read_eq_ok_iff {source : CodePoints} : host.read path encoding = .ok source ↔
    ∃ text, host.Holds path encoding text ∧ withPlainNewlines text = source := by
  constructor
  · intro h
    obtain ⟨text, hholds⟩ | ⟨error, hfails⟩ := holds_or_fails host path encoding
    · rw [read_of_holds hholds] at h
      exact ⟨text, hholds, Except.ok.inj h⟩
    · rw [read_of_fails hfails] at h
      cases h
  · rintro ⟨text, hholds, rfl⟩
    exact read_of_holds hholds

/-- **The errors of reading** are those listed. -/
theorem read_eq_error_iff {error : ReadError} :
    host.read path encoding = .error error ↔ host.Fails path encoding error := by
  refine ⟨fun h => ?_, read_of_fails⟩
  obtain ⟨text, hholds⟩ | ⟨other, hfails⟩ := holds_or_fails host path encoding
  · rw [read_of_holds hholds] at h
    cases h
  · rw [read_of_fails hfails] at h
    exact Except.error.inj h ▸ hfails

theorem exists_holds_iff :
    (∃ text, host.Holds path encoding text) ↔ ∀ error, ¬ host.Fails path encoding error := by
  simp only [← read_eq_error_iff]
  cases hread : host.read path encoding with
  | ok source =>
    obtain ⟨text, hholds, -⟩ := read_eq_ok_iff.mp hread
    exact iff_of_true ⟨text, hholds⟩ fun error => nofun
  | error error =>
    refine iff_of_false ?_ fun hnone => hnone error rfl
    rintro ⟨text, hholds⟩
    rw [read_of_holds hholds] at hread
    cases hread

/-! ## Paths in UTF-8 -/

variable (haddress : host.address = addressOf)

include haddress

theorem fails_noAddress_iff {reason : String} : host.Fails path encoding (.noAddress reason) ↔
    (∃ name, IsName encoding name) ∧
      ∃ fault : EncodeFault, fault.IsFirst hasBytes path ∧ fault.message = reason := by
  rw [← addressOf_eq_error_iff, ← haddress]
  constructor
  · rintro (_ | _ | ⟨hname, h⟩)
    exact ⟨⟨_, hname⟩, h⟩
  · rintro ⟨⟨name, hname⟩, h⟩
    exact .noAddress hname h

theorem fails_nullInPath_iff : host.Fails path encoding .nullInPath ↔
    (∃ name, IsName encoding name) ∧ (∀ point ∈ path, hasBytes point) ∧ .char '\x00' ∈ path := by
  constructor
  · rintro (_ | _ | _ | ⟨hname, hpath, hzero⟩)
    rw [haddress] at hpath
    exact ⟨⟨_, hname⟩, (addressOf_eq_ok_iff.mp hpath).1, (zero_mem_address_iff hpath).mp hzero⟩
  · rintro ⟨⟨name, hname⟩, hall, hnull⟩
    have hpath := addressOf_eq_ok_iff.mpr ⟨hall, rfl⟩
    exact .nullInPath hname (haddress ▸ hpath) ((zero_mem_address_iff hpath).mpr hnull)

end Host

end SymbolCensus.Source
