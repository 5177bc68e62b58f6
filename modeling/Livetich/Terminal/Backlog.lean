/-
The backlog of a terminal whose output comes in chunks: `appendData` decodes each chunk of bytes on its own, so a
character that a cut goes through comes out as replacement characters. When the backlog is the tail of the output all
the same.
-/
import Livetich.Lib.Utf8
import Livetich.Terminal.Hosts

namespace Livetich.Terminal

open Livetich.Lib.Utf8 Livetich.Lib.Runs
open Livetich.Sockets
open Hosts (backlog_append tail_append)

/-! ## Chunks -/

/-- `string | Uint8Array`. -/
inductive Chunk
  | text (str : Units)
  | bytes (data : List UInt8)

/-- `typeof chunk === 'string' ? chunk : Buffer.from(chunk).toString('utf-8')`. -/
def Chunk.str : Chunk → Units
  | .text str => str
  | .bytes data => decode (data.map .byte)

/-- What a chunk is of the output. -/
def Chunk.items : Chunk → List Item
  | .text str => str.map .unit
  | .bytes data => data.map .byte

namespace Sessions

/-- Chunks one after the other, through `appendData`. -/
def appendChunks (ts : Sessions) (sessionId : SessionId) (terminalId : TerminalId) (chunks : List Chunk) : Sessions :=
  chunks.foldl (fun ts chunk => ts.appendData sessionId terminalId chunk.str) ts

/-- The backlog that `getTerminalsForSession` lists for a terminal. -/
def backlog (ts : Sessions) (sessionId : SessionId) (terminalId : TerminalId) : Option Units :=
  (ts sessionId terminalId).map (·.backlog)

end Sessions

/-- The whole output. -/
def output (chunks : List Chunk) : List Item := chunks.flatMap Chunk.items

/-- After the last character that a cut goes through the output fills the backlog; or it does so with the replacement
characters before that, and nothing else stands between. -/
def CutsShowNot (chunks : List Chunk) : Prop :=
  ∀ rest ∈ afterCut (chunks.map Chunk.items), maxBacklogBytes ≤ rest.length ∨
    tail (decode (output chunks)) = List.replicate (maxBacklogBytes - rest.length) replacement ++ rest

/-! ## What is kept -/

theorem str_eq (chunk : Chunk) : chunk.str = decode chunk.items := by
  cases chunk with
  | bytes data => rfl
  | text str =>
    cases str with
    | nil => rfl
    | cons u str =>
      have h := decodeFrom_units (List.cons_ne_nil u str) none []
      rw [List.append_nil] at h
      exact (List.append_nil _).symm.trans h.symm

theorem flatMap_str (chunks : List Chunk) : chunks.flatMap Chunk.str = apart (chunks.map Chunk.items) := by
  unfold apart
  rw [List.flatMap_map]
  exact congrArg chunks.flatMap (funext str_eq)

theorem backlog_appendData {ts : Sessions} {sessionId : SessionId} {terminalId : TerminalId} {kept : Units}
    (h : ts.backlog sessionId terminalId = some kept) (chunk : Units) :
    (ts.appendData sessionId terminalId chunk).backlog sessionId terminalId = some (tail (kept ++ chunk)) := by
  obtain ⟨x, hx, rfl⟩ := Option.map_eq_some_iff.1 h
  unfold Sessions.backlog Sessions.appendData Sessions.modify Sessions.set
  rw [Function.update_self, Function.update_self, hx, Option.map_some, Option.map_some, backlog_append]

/-- Cutting after every chunk is cutting once. -/
theorem backlog_appendChunks {sessionId : SessionId} {terminalId : TerminalId} :
    ∀ (chunks : List Chunk) {sent : Units} {ts : Sessions}, ts.backlog sessionId terminalId = some (tail sent) →
      (ts.appendChunks sessionId terminalId chunks).backlog sessionId terminalId =
        some (tail (sent ++ chunks.flatMap Chunk.str))
  | [], sent, ts, h => by
    rw [List.flatMap_nil, List.append_nil]
    exact h
  | chunk :: chunks, sent, ts, h => by
    have hone := backlog_appendData h chunk.str
    rw [tail_append] at hone
    have hrest := backlog_appendChunks chunks hone
    rw [List.append_assoc] at hrest
    exact hrest

/-- The backlog of a terminal is the tail of its output, however it was cut, just where no cut goes through a character
or none of it shows. -/
theorem backlog_iff (ts : Sessions) (sessionId : SessionId) (info : TerminalSessionInfo) (hostSocketId : SocketId)
    (hostUserId : UserId) (chunks : List Chunk) :
    ((ts.openTerminal sessionId info hostSocketId hostUserId).appendChunks sessionId info.terminalId chunks).backlog
        sessionId info.terminalId = some (tail (decode (output chunks))) ↔ CutsShowNot chunks := by
  have hopen : (ts.openTerminal sessionId info hostSocketId hostUserId).backlog sessionId info.terminalId =
      some (tail []) := by
    unfold Sessions.backlog Sessions.openTerminal Sessions.set
    rw [Function.update_self, Function.update_self]
    rfl
  have hcut := cut (chunks.map Chunk.items)
  have hwhole : (chunks.map Chunk.items).flatten = output chunks := (List.flatMap_def ..).symm
  rw [backlog_appendChunks _ hopen, List.nil_append, Option.some.injEq, flatMap_str, ← hwhole]
  unfold CutsShowNot
  rw [← hwhole]
  cases hafter : afterCut (chunks.map Chunk.items) with
  | none =>
    rw [hcut.whole hafter]
    simp
  | some rest =>
    obtain ⟨w, v, hw, hv, hruns⟩ := hcut.cut rest hafter
    rw [hw, hv]
    refine (rtake_eq_iff hruns maxBacklogBytes).trans ?_
    simp [tail, List.rtake]

namespace Example

def shell : TerminalSessionInfo :=
  ⟨"bash", "bash", .ofInt 80, .ofInt 24, true, none, .instructorOnly, none⟩

/-- An accented letter that comes in two chunks. -/
def cutLetter : List Chunk := [.bytes [0xC3], .bytes [0xA9]]

def opened : Sessions := Sessions.openTerminal (fun _ _ => none) "s1" shell "k1" "yusuf"

end Example

open Example in
/-- It is kept as two replacement characters, where the output is one letter. -/
theorem cut_letter :
    (opened.appendChunks "s1" "bash" cutLetter).backlog "s1" "bash" = some [0xFFFD, 0xFFFD] ∧
      tail (decode (output cutLetter)) = [0xE9] := by
  decide

end Livetich.Terminal
