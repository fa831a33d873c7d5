import Mathlib.Logic.Function.Basic
import OxiTls.Client.Config
import OxiTls.Library.Records
import OxiTls.Library.Setters

/-!
# The key log

`keylog_bridge.rs` and the bridge of `tls13/server.rs`: a bridge appends one line per secret to a
file, or hands the secret to a logger.  The file is opened for every line, failures are ignored, and
a write may stop within a line.  Reading the file gives the secrets back; a line that was cut short
costs itself and at most the next one.
-/

namespace OxiTls

/-- A secret of a session, as rustls hands it to its key log; the label is its UTF-8 bytes. -/
structure KeyLogEntry where
  label : Bytes
  clientRandom : Bytes
  secret : Bytes
  deriving DecidableEq, Repr

/-- A lowercase hexadecimal digit. -/
def hexDigit (value : UInt8) : UInt8 := if value < 10 then 0x30 + value else 0x57 + value

/-- `hex_bytes` of the adapter, and `server_hex_bytes` of the server. -/
def hexBytes (bytes : Bytes) : Bytes :=
  bytes.foldl (fun acc b => acc ++ [hexDigit (b / 16), hexDigit (b % 16)]) []

/-- The line without its newline. -/
def KeyLogEntry.text (entry : KeyLogEntry) : Bytes :=
  entry.label ++ [0x20] ++ (hexBytes entry.clientRandom ++ [0x20]) ++ hexBytes entry.secret

/-- The line that both bridges format. -/
def KeyLogEntry.line (entry : KeyLogEntry) : Bytes := entry.text ++ [0x0a]

/-- The files, where one that does not exist is empty, and what the custom loggers were given. -/
structure KeyLogWorld where
  files : String → Bytes
  loggers : Nat → List KeyLogEntry

/-- `log` of `KeyLogBridge` and of `ServerKeyLogBridge`.  The file does not open, or takes the given
number of bytes. -/
def KeyLogPolicy.log (policy : KeyLogPolicy) (entry : KeyLogEntry) (taken : Option Nat)
    (world : KeyLogWorld) : KeyLogWorld :=
  match policy with
  | .disabled => world
  | .file path =>
      match taken with
      | none => world
      | some count =>
          { world with
            files := Function.update world.files path (world.files path ++ entry.line.take count) }
  | .custom logger =>
      { world with
        loggers := Function.update world.loggers logger (world.loggers logger ++ [entry]) }

/-- A session of some configuration logs a secret. -/
structure KeyLogEvent where
  /-- The bridge that `build` installed. -/
  keyLog : Option KeyLogPolicy
  entry : KeyLogEntry
  /-- The bytes that a file takes, if it opens. -/
  taken : Option Nat
  deriving DecidableEq, Repr

/-- `NoKeyLog`, or the bridge. -/
def KeyLogWorld.step (world : KeyLogWorld) (event : KeyLogEvent) : KeyLogWorld :=
  match event.keyLog with
  | none => world
  | some policy => policy.log event.entry event.taken world

/-! ## Reading -/

/-- The value of a hexadecimal digit. -/
def unhexDigit (code : UInt8) : Option UInt8 :=
  if 0x30 ≤ code ∧ code ≤ 0x39 then some (code - 0x30)
  else if 0x61 ≤ code ∧ code ≤ 0x66 then some (code - 0x57)
  else none

/-- The bytes of a sequence of pairs of digits. -/
def unhexBytes : Bytes → Option Bytes
  | [] => some []
  | [_] => none
  | high :: low :: digits => do
      let high ← unhexDigit high
      let low ← unhexDigit low
      let bytes ← unhexBytes digits
      some ((high * 16 + low) :: bytes)

/-- Read a line: a label, the client random and the secret. -/
def KeyLogEntry.read (line : Bytes) : Option KeyLogEntry :=
  match Records.cut 0x20 line with
  | ⟨[label, random], digits⟩ => do
      let clientRandom ← unhexBytes random
      let secret ← unhexBytes digits
      some ⟨label, clientRandom, secret⟩
  | _ => none

/-- Read a file.  Lines that are not entries are skipped, and so is a line without its newline. -/
def readKeyLog (file : Bytes) : List KeyLogEntry :=
  (Records.cut 0x0a file).complete.filterMap KeyLogEntry.read

/-! ## The format -/

/-- The digits of a byte. -/
def hexPair (byte : UInt8) : Bytes := [hexDigit (byte / 16), hexDigit (byte % 16)]

theorem hexBytes_eq_flatMap (bytes : Bytes) : hexBytes bytes = bytes.flatMap hexPair :=
  (List.flatMap_eq_foldl ..).symm

/-- The digits of a byte are read back, and none of them is a space or a newline. -/
theorem unhex_hexPair (byte : UInt8) :
    unhexDigit (hexDigit (byte / 16)) = some (byte / 16) ∧
      unhexDigit (hexDigit (byte % 16)) = some (byte % 16) ∧
      byte / 16 * 16 + byte % 16 = byte ∧ 0x20 ∉ hexPair byte ∧ 0x0a ∉ hexPair byte := by
  have all : ∀ value : Fin 256, ∀ byte, UInt8.ofNat value = byte →
      unhexDigit (hexDigit (byte / 16)) = some (byte / 16) ∧
        unhexDigit (hexDigit (byte % 16)) = some (byte % 16) ∧
        byte / 16 * 16 + byte % 16 = byte ∧ 0x20 ∉ hexPair byte ∧ 0x0a ∉ hexPair byte := by
    simp only [forall_eq']
    decide +kernel
  exact all ⟨byte.toNat, byte.toNat_lt⟩ byte UInt8.ofNat_toNat

theorem unhexBytes_hexBytes (bytes : Bytes) : unhexBytes (hexBytes bytes) = some bytes := by
  rw [hexBytes_eq_flatMap]
  induction bytes with
  | nil => rfl
  | cons byte bytes induction =>
      obtain ⟨high, low, whole, -, -⟩ := unhex_hexPair byte
      simp only [List.flatMap_cons, hexPair, List.cons_append, List.nil_append, unhexBytes, high,
        low, induction, whole, Option.bind_eq_bind, Option.bind_some]

theorem notMem_hexBytes (bytes : Bytes) : 0x20 ∉ hexBytes bytes ∧ 0x0a ∉ hexBytes bytes := by
  rw [hexBytes_eq_flatMap]
  constructor
  · intro mem
    obtain ⟨byte, -, mem⟩ := List.mem_flatMap.mp mem
    exact (unhex_hexPair byte).2.2.2.1 mem
  · intro mem
    obtain ⟨byte, -, mem⟩ := List.mem_flatMap.mp mem
    exact (unhex_hexPair byte).2.2.2.2 mem

/-- A label without spaces and newlines, as all labels of rustls are. -/
structure KeyLogEntry.Labelled (entry : KeyLogEntry) : Prop where
  space : 0x20 ∉ entry.label
  newline : 0x0a ∉ entry.label

namespace KeyLogEntry

variable {entry : KeyLogEntry}

theorem Labelled.read_text (labelled : entry.Labelled) : read entry.text = some entry := by
  obtain ⟨random, -⟩ := notMem_hexBytes entry.clientRandom
  obtain ⟨secret, -⟩ := notMem_hexBytes entry.secret
  have fields : Records.cut 0x20 entry.text =
      ⟨[entry.label, hexBytes entry.clientRandom], hexBytes entry.secret⟩ := by
    have first := Records.cut_append_record labelled.space []
    rw [List.nil_append] at first
    rw [text, Records.cut_append_of_notMem secret, Records.cut_append_record random, first]
    rfl
  simp only [read, fields, unhexBytes_hexBytes, Option.bind_eq_bind, Option.bind_some]

theorem Labelled.newline_notMem_text (labelled : entry.Labelled) : 0x0a ∉ entry.text := by
  simp only [text, List.mem_append, List.mem_singleton, not_or]
  exact ⟨⟨⟨labelled.newline, by decide⟩, (notMem_hexBytes _).2, by decide⟩, (notMem_hexBytes _).2⟩

end KeyLogEntry

/-! ## Writes to one file -/

/-- An entry and the number of bytes that the file takes of its line. -/
abbrev LineWrite := KeyLogEntry × Nat

namespace LineWrite

/-- The bytes that reach the file. -/
def bytes (write : LineWrite) : Bytes := write.1.line.take write.2

/-- All of the line reaches the file. -/
def Whole (write : LineWrite) : Prop := write.1.line.length ≤ write.2

/-- A part of the line reaches the file. -/
def Torn (write : LineWrite) : Prop := 0 < write.2 ∧ write.2 < write.1.line.length

instance : DecidablePred Whole := fun _ => inferInstanceAs (Decidable (_ ≤ _))

instance : DecidablePred Torn := fun _ => inferInstanceAs (Decidable (_ ∧ _))

/-- The entries that were written whole. -/
def wholes (writes : List LineWrite) : List KeyLogEntry := (writes.filter Whole).map Prod.fst

/-- The number of torn writes. -/
def tears (writes : List LineWrite) : Nat := writes.countP Torn

variable {write : LineWrite} {writes : List LineWrite} {file : Bytes}

theorem Whole.bytes_eq (whole : write.Whole) : write.bytes = write.1.text ++ [0x0a] :=
  List.take_of_length_le whole

theorem Torn.newline_notMem_bytes (torn : write.Torn) (labelled : write.1.Labelled) :
    0x0a ∉ write.bytes := by
  have within : write.2 ≤ write.1.text.length := by
    have := torn.2
    simp only [KeyLogEntry.line, List.length_append, List.length_singleton] at this
    omega
  rw [bytes, KeyLogEntry.line, List.take_append_of_le_length within]
  exact fun mem => labelled.newline_notMem_text (List.mem_of_mem_take mem)

/-- A torn line is not read, and a whole one ends the line that was begun. -/
theorem readKeyLog_append_whole (whole : write.Whole) (labelled : write.1.Labelled) :
    readKeyLog (file ++ write.bytes) = readKeyLog file ++
      (KeyLogEntry.read ((Records.cut 0x0a file).rest ++ write.1.text)).toList := by
  rw [readKeyLog, whole.bytes_eq, Records.cut_append_record labelled.newline_notMem_text,
    List.filterMap_append, ← readKeyLog]
  cases found : KeyLogEntry.read ((Records.cut 0x0a file).rest ++ write.1.text) <;> simp [found]

theorem readKeyLog_append_torn (torn : write.Torn) (labelled : write.1.Labelled) :
    readKeyLog (file ++ write.bytes) = readKeyLog file := by
  rw [readKeyLog, Records.cut_append_of_notMem (torn.newline_notMem_bytes labelled), readKeyLog]

/-- One for a line that was begun and not ended. -/
def begun (file : Bytes) : Nat := if (Records.cut 0x0a file).rest = [] then 0 else 1

/-- What is read from a file after writes to it.  The entries of whole lines are kept but for one
per torn line; with no torn line the readings are these entries. -/
structure Kept (file : Bytes) (writes : List LineWrite) (read kept : List KeyLogEntry) : Prop where
  reads : readKeyLog (file ++ writes.flatMap bytes) = readKeyLog file ++ read
  bounded : read.length ≤ (wholes writes).length
  written : kept.Sublist (wholes writes)
  found : kept.Sublist read
  lost : (wholes writes).length ≤ kept.length + tears writes + begun file

namespace Kept

variable {read kept : List KeyLogEntry}

theorem reads_cons (rest : Kept (file ++ write.bytes) writes read kept) :
    readKeyLog (file ++ (write :: writes).flatMap bytes) =
      readKeyLog (file ++ write.bytes) ++ read := by
  rw [List.flatMap_cons, ← List.append_assoc, rest.reads]

theorem wholes_cons (whole : write.Whole) :
    wholes (write :: writes) = write.1 :: wholes writes := by
  simp [wholes, whole]

/-- A whole line ends what was begun, and it is not torn. -/
theorem lost_cons (rest : Kept (file ++ write.bytes) writes read kept)
    (labelled : write.1.Labelled) (whole : write.Whole) :
    (wholes writes).length ≤ kept.length + tears (write :: writes) := by
  have untorn : ¬ write.Torn := fun torn => absurd whole (Nat.not_le.mpr torn.2)
  have ended : begun (file ++ write.bytes) = 0 := by
    rw [begun, whole.bytes_eq, Records.cut_append_record labelled.newline_notMem_text, if_pos rfl]
  have lost := rest.lost
  rw [ended] at lost
  simpa [tears, untorn] using lost

/-- A whole line after whole lines is kept. -/
theorem cons_clean (rest : Kept (file ++ write.bytes) writes read kept)
    (labelled : write.1.Labelled) (whole : write.Whole)
    (clean : (Records.cut 0x0a file).rest = []) :
    Kept file (write :: writes) (write.1 :: read) (write.1 :: kept) := by
  have lost := rest.lost_cons labelled whole
  constructor
  · rw [rest.reads_cons, readKeyLog_append_whole whole labelled, clean, List.nil_append,
      labelled.read_text, List.append_assoc]
    rfl
  · simpa [wholes_cons whole] using rest.bounded
  · simpa [wholes_cons whole] using rest.written
  · simpa using rest.found
  · rw [wholes_cons whole, List.length_cons, List.length_cons]
    omega

/-- A whole line after a part of one ends a line that may not be an entry. -/
theorem cons_begun (rest : Kept (file ++ write.bytes) writes read kept)
    (labelled : write.1.Labelled) (whole : write.Whole)
    (unclean : (Records.cut 0x0a file).rest ≠ []) :
    Kept file (write :: writes)
      ((KeyLogEntry.read ((Records.cut 0x0a file).rest ++ write.1.text)).toList ++ read) kept := by
  have lost := rest.lost_cons labelled whole
  have begins : begun file = 1 := if_neg unclean
  have bounded := rest.bounded
  constructor
  · rw [rest.reads_cons, readKeyLog_append_whole whole labelled, List.append_assoc]
  · have : (KeyLogEntry.read ((Records.cut 0x0a file).rest ++ write.1.text)).toList.length ≤ 1 :=
      Option.length_toList_le
    rw [wholes_cons whole, List.length_append, List.length_cons]
    omega
  · rw [wholes_cons whole]
    exact rest.written.cons _
  · exact rest.found.trans (List.sublist_append_right _ _)
  · rw [wholes_cons whole, List.length_cons]
    omega

/-- A torn line is not read, and a write that fails at once changes nothing. -/
theorem cons_short (rest : Kept (file ++ write.bytes) writes read kept)
    (labelled : write.1.Labelled) (short : ¬ write.Whole) :
    Kept file (write :: writes) read kept := by
  have wholes_eq : wholes (write :: writes) = wholes writes := by simp [wholes, short]
  have lost := rest.lost
  by_cases torn : write.Torn
  · have tears_eq : tears (write :: writes) = tears writes + 1 := by simp [tears, torn]
    have begins : begun (file ++ write.bytes) ≤ 1 := by
      unfold begun
      split <;> omega
    constructor
    · rw [rest.reads_cons, readKeyLog_append_torn torn labelled]
    · exact wholes_eq ▸ rest.bounded
    · exact wholes_eq ▸ rest.written
    · exact rest.found
    · rw [wholes_eq, tears_eq]
      omega
  · have nothing : write.2 = 0 := by
      have := Nat.not_le.mp short
      have := not_and.mp torn
      omega
    have bytes_eq : write.bytes = [] := by rw [bytes, nothing, List.take_zero]
    have tears_eq : tears (write :: writes) = tears writes := by simp [tears, torn]
    rw [bytes_eq, List.append_nil] at lost
    constructor
    · rw [rest.reads_cons, bytes_eq, List.append_nil]
    · exact wholes_eq ▸ rest.bounded
    · exact wholes_eq ▸ rest.written
    · exact rest.found
    · rwa [wholes_eq, tears_eq]

end Kept

theorem exists_kept (labelled : ∀ write ∈ writes, write.1.Labelled) (file : Bytes) :
    ∃ read kept, Kept file writes read kept := by
  induction writes generalizing file with
  | nil => exact ⟨[], [], by simp, by simp, by simp, by simp, by simp [wholes]⟩
  | cons write writes induction =>
      obtain ⟨own, later⟩ := List.forall_mem_cons.mp labelled
      obtain ⟨read, kept, rest⟩ := induction later (file ++ write.bytes)
      by_cases whole : write.Whole
      · by_cases clean : (Records.cut 0x0a file).rest = []
        · exact ⟨_, _, rest.cons_clean own whole clean⟩
        · exact ⟨_, _, rest.cons_begun own whole clean⟩
      · exact ⟨_, _, rest.cons_short own whole⟩

end LineWrite

/-! ## Runs -/

namespace KeyLogEvent

/-- The write that an event makes to a file. -/
def writes (path : String) (event : KeyLogEvent) : List LineWrite :=
  match event.keyLog, event.taken with
  | some (.file file), some count => if file = path then [(event.entry, count)] else []
  | _, _ => []

/-- What an event gives to a custom logger. -/
def given (logger : Nat) (event : KeyLogEvent) : List KeyLogEntry :=
  match event.keyLog with
  | some (.custom address) => if address = logger then [event.entry] else []
  | _ => []

/-- The writes that events make to a file. -/
def fileWrites (path : String) (events : List KeyLogEvent) : List LineWrite :=
  events.flatMap (writes path)

theorem mem_writes {path : String} {event : KeyLogEvent} {write : LineWrite}
    (mem : write ∈ event.writes path) : write.1 = event.entry := by
  unfold writes at mem
  split at mem
  · split at mem
    · rw [List.mem_singleton.mp mem]
    · cases mem
  · cases mem

end KeyLogEvent

namespace KeyLogWorld

theorem files_step (world : KeyLogWorld) (event : KeyLogEvent) (path : String) :
    (world.step event).files path =
      world.files path ++ (event.writes path).flatMap LineWrite.bytes := by
  obtain ⟨keyLog, entry, taken⟩ := event
  rcases keyLog with _ | _ | file | logger
  · simp [step, KeyLogEvent.writes]
  · simp [step, KeyLogPolicy.log, KeyLogEvent.writes]
  · rcases taken with _ | count
    · simp [step, KeyLogPolicy.log, KeyLogEvent.writes]
    · by_cases same : file = path
      · subst same
        simp [step, KeyLogPolicy.log, KeyLogEvent.writes, LineWrite.bytes]
      · simp [step, KeyLogPolicy.log, KeyLogEvent.writes, same,
          Function.update_of_ne (Ne.symm same)]
  · simp [step, KeyLogPolicy.log, KeyLogEvent.writes]

theorem loggers_step (world : KeyLogWorld) (event : KeyLogEvent) (logger : Nat) :
    (world.step event).loggers logger = world.loggers logger ++ event.given logger := by
  obtain ⟨keyLog, entry, taken⟩ := event
  rcases keyLog with _ | _ | file | address
  · simp [step, KeyLogEvent.given]
  · simp [step, KeyLogPolicy.log, KeyLogEvent.given]
  · cases taken <;> simp [step, KeyLogPolicy.log, KeyLogEvent.given]
  · by_cases same : address = logger
    · subst same
      simp [step, KeyLogPolicy.log, KeyLogEvent.given]
    · simp [step, KeyLogPolicy.log, KeyLogEvent.given, same, Function.update_of_ne (Ne.symm same)]

/-- Files and loggers hold what was written and given, in the order of the events. -/
theorem files_run (events : List KeyLogEvent) (world : KeyLogWorld) (path : String) :
    (events.foldl step world).files path =
      world.files path ++ (KeyLogEvent.fileWrites path events).flatMap LineWrite.bytes := by
  rw [KeyLogEvent.fileWrites, List.flatMap_assoc]
  exact Setters.foldl_extend (fun world => files world path)
    (fun event => (event.writes path).flatMap LineWrite.bytes)
    (fun event _ world => files_step world event path) world

theorem loggers_run (events : List KeyLogEvent) (world : KeyLogWorld) (logger : Nat) :
    (events.foldl step world).loggers logger =
      world.loggers logger ++ events.flatMap (KeyLogEvent.given logger) :=
  Setters.foldl_extend (fun world => loggers world logger) (KeyLogEvent.given logger)
    (fun event _ world => loggers_step world event logger) world

/-- However the sessions of clients and servers interleave, reading a file gives the entries that
were written to it in whole lines.  Each line that was cut short costs at most one of them, and
adds none; without such lines the reading is exact.  Loggers get every entry, in order. -/
theorem key_log_files_read_back (world : KeyLogWorld) (events : List KeyLogEvent)
    (labelled : ∀ event ∈ events, event.entry.Labelled) :
    (∀ path, ∃ read kept : List KeyLogEntry,
      readKeyLog ((events.foldl step world).files path) = readKeyLog (world.files path) ++ read ∧
      read.length ≤ (LineWrite.wholes (KeyLogEvent.fileWrites path events)).length ∧
      kept.Sublist (LineWrite.wholes (KeyLogEvent.fileWrites path events)) ∧ kept.Sublist read ∧
      (LineWrite.wholes (KeyLogEvent.fileWrites path events)).length ≤
        kept.length + LineWrite.tears (KeyLogEvent.fileWrites path events) +
          LineWrite.begun (world.files path) ∧
      (LineWrite.tears (KeyLogEvent.fileWrites path events) = 0 →
        LineWrite.begun (world.files path) = 0 →
        read = LineWrite.wholes (KeyLogEvent.fileWrites path events))) ∧
    ∀ logger, (events.foldl step world).loggers logger =
      world.loggers logger ++ events.flatMap (KeyLogEvent.given logger) := by
  refine ⟨fun path => ?_, loggers_run events world⟩
  have own : ∀ write ∈ KeyLogEvent.fileWrites path events, write.1.Labelled := by
    intro write mem
    obtain ⟨event, logged, mem⟩ := List.mem_flatMap.mp mem
    rw [KeyLogEvent.mem_writes mem]
    exact labelled event logged
  obtain ⟨read, kept, reading⟩ := LineWrite.exists_kept own (world.files path)
  refine ⟨read, kept, ?_, reading.bounded, reading.written, reading.found, reading.lost, ?_⟩
  · rw [files_run, reading.reads]
  · intro untorn ended
    have lost := reading.lost
    rw [untorn, ended] at lost
    have all : kept = LineWrite.wholes _ := reading.written.eq_of_length_le lost
    have same : kept = read := reading.found.eq_of_length_le (all ▸ reading.bounded)
    exact same ▸ all

/-- A client and a server share a file, which once does not open, and a logger gets an entry. -/
def sharedLog : List KeyLogEvent :=
  [⟨some (.file "keys"), ⟨[0x53, 0x41], [0x2a], [0x0f]⟩, some 100⟩,
    ⟨some (.custom 1), ⟨[0x43], [1], [2]⟩, none⟩,
    ⟨some (.file "keys"), ⟨[0x53, 0x42], [1], [2]⟩, none⟩,
    ⟨some (.file "keys"), ⟨[0x53, 0x43], [], [0xff]⟩, some 100⟩]

theorem key_log_files_read_back_sharedLog :
    (∀ event ∈ sharedLog, event.entry.Labelled) ∧
      readKeyLog ((sharedLog.foldl step ⟨fun _ => [], fun _ => []⟩).files "keys") =
        [⟨[0x53, 0x41], [0x2a], [0x0f]⟩, ⟨[0x53, 0x43], [], [0xff]⟩] := by
  have labelled : ∀ event ∈ sharedLog, event.entry.Labelled := by
    simp only [sharedLog, List.forall_mem_cons]
    refine ⟨⟨?_, ?_⟩, ⟨?_, ?_⟩, ⟨?_, ?_⟩, ⟨?_, ?_⟩, nofun⟩ <;> decide
  obtain ⟨read, kept, reads, -, -, -, -, whole⟩ :=
    (key_log_files_read_back ⟨fun _ => [], fun _ => []⟩ sharedLog labelled).1 "keys"
  rw [reads, whole (by decide) rfl]
  exact ⟨labelled, by decide⟩

end KeyLogWorld

end OxiTls
