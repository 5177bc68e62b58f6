/-
Import of past questions: `AlocService.fetchDraft`, which serves a request from the shared pool and walks the pages of
ALOC until the pool can answer it. ALOC answers each call as it likes.
-/
import Livetich.Js.Text
import Livetich.Lib.Calls
import Livetich.Lib.Table
import Livetich.Workspace.Model

namespace Livetich.Exams.Aloc

open Livetich.Lib Livetich.Lib.Calls
open Livetich.Workspace (nonEmpty)

/-! ## Data -/

/-- `OPTION_LETTERS`. -/
def optionLetters : List String := ["A", "B", "C", "D", "E", "F"]

/-- `ALOC_MAX_PAGE`. -/
def alocMaxPage : Nat := 15

/-- `MAX_PAGES`. -/
def maxPages : Nat := 6

inductive HttpError
  | serviceUnavailable (message : String)
  | badGateway (message : String)
  | notFound (message : String)
  deriving DecidableEq

/-- A row of the pool; `fetchedAt` is read nowhere. -/
structure AlocQuestionCache where
  subject : String
  examType : String
  year : Option Int
  body : String
  options : List String
  correctIndex : Nat
  topic : Option String
  deriving DecidableEq

structure DraftQuestion where
  body : String
  options : List String
  correctIndex : Nat
  topic : Option String
  deriving DecidableEq

structure RawDraft extends DraftQuestion where
  id : String
  year : Option Int
  deriving DecidableEq

structure DraftResult where
  questions : List DraftQuestion
  creditsRemaining : Option Nat
  fromCache : Bool
  deriving DecidableEq

structure AlocQuestion where
  id : Option String
  text : Option String
  /-- The text under a letter; one that is missing or `null` is `none`. -/
  options : String → Option String
  correctAnswer : Option String
  subject : Option String
  year : Option Int
  imageUrl : Option String
  /-- `metadata?.topic`. -/
  topic : Option String

structure AlocResponse where
  data : List (Option AlocQuestion)
  creditsRemaining : Option Nat
  nextCursor : Option String
  hasMore : Bool
  error : Option String
  message : Option String

/-- What a request to ALOC comes to; the payload is `none` where the body is not JSON. -/
inductive Reply
  | failed (message : String)
  | answered (status : Nat) (payload : Option AlocResponse)

structure Batch where
  drafts : List RawDraft
  creditsRemaining : Option Nat
  nextCursor : Option String
  hasMore : Bool

structure Params where
  subject : String
  examType : String
  year : Option Int
  limit : Nat

abbrev Pool := Table String AlocQuestionCache

/-- The pool, and how many calls of ALOC were made. -/
structure Import where
  pool : Pool
  calls : Nat

abbrev ImportCalls := Calls Import HttpError

/-- What does not change while a request is served. -/
structure Service where
  apiKey : Option String
  /-- `trim().toLowerCase()`. -/
  toLowerCase : List Char → String
  /-- The reply to a call, the first one under 0, with the fields of its query string. -/
  remote : Nat → List (String × String) → Reply
  /-- How a query without `orderBy` returns its rows. -/
  scan : Scan (String × AlocQuestionCache)
  /-- What `Math.random` draws. -/
  draw : Nat

/-! ## The remote service -/

/-- A year that is set and not 0, as a truth test reads it. -/
def given (year : Option Int) : Option Int := year.filter (· ≠ 0)

/-- One letter of the loop of `map`: the options so far, and where the right one is. -/
def addOption (q : AlocQuestion) (found : List String × Option Nat) (letter : String) : List String × Option Nat :=
  match nonEmpty (q.options letter) with
  | none => found
  | some val => (found.1 ++ [val], if q.correctAnswer = some letter then some found.1.length else found.2)

def map (row : Option AlocQuestion) : Option RawDraft := do
  let q ← row
  let id ← nonEmpty q.id
  let text ← nonEmpty q.text
  guard (nonEmpty q.imageUrl = none)
  let found := optionLetters.foldl (addOption q) ([], none)
  guard (2 ≤ found.1.length)
  let correctIndex ← found.2
  return { id, year := q.year, body := text, options := found.1, correctIndex
           topic := (nonEmpty q.topic).or (nonEmpty q.subject) }

/-- What `callAloc` makes of a reply. -/
def answer (subject examType : String) (year : Option Int) : Reply → Except HttpError Batch
  | .failed message => .error (.badGateway ("ALOC request failed: " ++ message))
  | .answered status payload =>
    if status = 429 then
      .error (.serviceUnavailable
        "ALOC is rate-limiting us right now. Wait a minute and import again — anything already imported is kept.")
    else if status = 404 then
      let filters := match given year with
        | some y => examType ++ " " ++ toString y
        | none => examType
      let advice :=
        if (given year).isSome then " Try another year, or clear the year to take whatever it has."
        else " Try another exam type or subject."
      .error (.notFound ("ALOC has no \"" ++ subject ++ "\" questions for " ++ filters ++ "." ++ advice))
    else
      match payload with
      | none => .error (.badGateway ("ALOC error: HTTP " ++ toString status))
      | some payload =>
        if 200 ≤ status ∧ status < 300 then
          .ok ⟨payload.data.filterMap map, payload.creditsRemaining, payload.nextCursor, payload.hasMore⟩
        else
          let msg := ((nonEmpty payload.error).or (nonEmpty payload.message)).getD ("HTTP " ++ toString status)
          .error (.badGateway ("ALOC error: " ++ msg))

/-- The fields of the query string. -/
def query (subject examType : String) (year : Option Int) (cursor : Option String) (want : Nat) :
    List (String × String) :=
  [("subject", subject), ("examType", examType)] ++ ((given year).map fun y => ("year", toString y)).toList ++
    [("limit", toString (min want alocMaxPage))] ++ ((nonEmpty cursor).map fun c => ("cursor", c)).toList

variable (service : Service)

def callAloc (subject examType : String) (year : Option Int) (cursor : Option String) (want : Nat) :
    ImportCalls Batch := fun s =>
  ({ s with calls := s.calls + 1 },
    if nonEmpty service.apiKey = none then
      .error (.serviceUnavailable "Question import is not configured (ALOC_API_KEY missing).")
    else answer subject examType year (service.remote s.calls (query subject examType year cursor want)))

/-! ## The pool -/

def RawDraft.row (d : RawDraft) (subject examType : String) : AlocQuestionCache :=
  { subject, examType, year := d.year, body := d.body, options := d.options, correctIndex := d.correctIndex
    topic := d.topic }

/-- Rows that are held stay as they are. -/
def persist (pool : Pool) (drafts : List RawDraft) (subject examType : String) : Pool :=
  drafts.foldl (fun pool d => pool.insert d.id (d.row subject examType)) pool

/-- The `where` of a request. -/
def Matches (subject examType : String) (year : Option Int) (row : AlocQuestionCache) : Prop :=
  row.subject = subject ∧ row.examType = examType ∧ ∀ y ∈ given year, row.year = some y

instance (subject examType : String) (year : Option Int) (row : AlocQuestionCache) :
    Decidable (Matches subject examType year row) := by
  unfold Matches
  infer_instance

def matching (pool : Pool) (subject examType : String) (year : Option Int) : List (String × AlocQuestionCache) :=
  pool.entries.filter fun e => Matches subject examType year e.2

/-- `count({ where })`. -/
def count (pool : Pool) (subject examType : String) (year : Option Int) : Nat :=
  (matching pool subject examType year).length

def rowToDraft (row : AlocQuestionCache) : DraftQuestion := ⟨row.body, row.options, row.correctIndex, row.topic⟩

/-! ## The walk -/

structure Progress where
  cursor : Option String
  creditsRemaining : Option Nat
  pooled : Nat

/-- The cursor to go on with. -/
def Batch.next (batch : Batch) : Option String := if batch.hasMore then nonEmpty batch.nextCursor else none

/-- The page goes into the pool, and the pool is counted again. -/
def store (batch : Batch) (subject examType : String) (year : Option Int) (pooled : Nat) : ImportCalls Nat :=
  if batch.drafts = [] then return pooled
  else do
    writes fun s => { s with pool := persist s.pool batch.drafts subject examType }
    reads fun s => .ok (count s.pool subject examType year)

/-- The loop of `fetchDraft`, with the pages it may still walk. -/
def walk (subject examType : String) (year : Option Int) (limit cachedCount : Nat) :
    Nat → Progress → ImportCalls Progress
  | 0, w => return w
  | n + 1, w =>
    if limit ≤ w.pooled then return w
    else do
      let reply ← tries (callAloc service subject examType year w.cursor limit)
      match reply with
      | .error e => if cachedCount < w.pooled then return w else throws e
      | .ok batch => do
        let pooled ← store batch subject examType year w.pooled
        let creditsRemaining := batch.creditsRemaining.or w.creditsRemaining
        match batch.next with
        | none => return ⟨w.cursor, creditsRemaining, pooled⟩
        | some cursor => walk subject examType year limit cachedCount n ⟨some cursor, creditsRemaining, pooled⟩

/-- `skip` and `take`. -/
def Service.page (skip limit : Nat) (rows : List (String × AlocQuestionCache)) : List (String × AlocQuestionCache) :=
  ((service.scan.order rows).drop skip).take limit

def serve (subject examType : String) (year : Option Int) (skip limit : Nat) : ImportCalls (List DraftQuestion) :=
  reads fun s => .ok ((service.page skip limit (matching s.pool subject examType year)).map fun e => rowToDraft e.2)

def fetchDraft (params : Params) : ImportCalls DraftResult := do
  let subject := service.toLowerCase (Js.trim params.subject.toList)
  let examType := service.toLowerCase (Js.trim params.examType.toList)
  let cachedCount ← reads fun s => .ok (count s.pool subject examType params.year)
  if params.limit ≤ cachedCount then do
    let skip := service.draw % (cachedCount - params.limit + 1)
    let questions ← serve service subject examType params.year skip params.limit
    return ⟨questions, none, true⟩
  else do
    let w ← walk service subject examType params.year params.limit cachedCount maxPages ⟨none, none, cachedCount⟩
    let questions ← serve service subject examType params.year 0 params.limit
    return ⟨questions, w.creditsRemaining, false⟩

/-! ## What an import promises -/

section Served

variable (params : Params) (pool : Pool)

/-- The subject and the exam type as they are stored. -/
def Params.subjectKey : String := service.toLowerCase (Js.trim params.subject.toList)

def Params.examTypeKey : String := service.toLowerCase (Js.trim params.examType.toList)

/-- The rows of the pool that answer a request. -/
def Params.found : List (String × AlocQuestionCache) :=
  matching pool (params.subjectKey service) (params.examTypeKey service) params.year

/-- The first call of a walk. -/
def Params.firstCall : Except HttpError Batch :=
  (callAloc service (params.subjectKey service) (params.examTypeKey service) params.year none params.limit ⟨pool, 0⟩).2

/-- The pool holds the rows it held, and its matching rows are among these. -/
def NothingNew (subject examType : String) (year : Option Int) (pool pool' : Pool) : Prop :=
  ∀ e ∈ matching pool' subject examType year, e ∈ matching pool subject examType year

/-- The state after a page has gone into the pool. -/
def Import.stored (s : Import) (batch : Batch) (subject examType : String) : Import :=
  ⟨persist s.pool batch.drafts subject examType, s.calls + 1⟩

/-- From this cursor on, up to so many pages: one fails, and those before it bring no matching question that was not
held. -/
def Stale (subject examType : String) (year : Option Int) (limit : Nat) : Nat → Option String → Import → Prop
  | 0, _, _ => False
  | n + 1, cursor, s =>
    match (callAloc service subject examType year cursor limit s).2 with
    | .error _ => True
    | .ok batch =>
      NothingNew subject examType year s.pool (s.stored batch subject examType).pool ∧
        ∃ c, batch.next = some c ∧
          Stale subject examType year limit n (some c) (s.stored batch subject examType)

/-- The request is not answered from the pool, its first page arrives and leads on, and a later one fails before a
page has brought a matching question that was not held. -/
def StaleWalk : Prop :=
  (params.found service pool).length < params.limit ∧ (∃ batch, params.firstCall service pool = .ok batch) ∧
    Stale service (params.subjectKey service) (params.examTypeKey service) params.year params.limit maxPages none
      ⟨pool, 0⟩

/-- What an import that ends in `t` with `result` has done. -/
structure Serves (t : Import) (result : Except HttpError DraftResult) : Prop where
  calls : t.calls ≤ maxPages
  failing : ∀ e, result = .error e → ∃ e', params.firstCall service pool = .error e'
  served : ∀ draft, result = .ok draft → ∃ rows : List (String × AlocQuestionCache),
    draft.questions = rows.map (fun e => rowToDraft e.2) ∧ (rows.map (·.1)).Nodup ∧
      (∀ e ∈ rows, e ∈ params.found service t.pool) ∧
      rows.length = min params.limit (params.found service t.pool).length
  kept : ∀ id row, pool.get id = some row → t.pool.get id = some row
  cached : params.limit ≤ (params.found service pool).length → t.calls = 0

end Served

/-! ## The pool only grows -/

section Pool

variable {subject examType : String} {year : Option Int}

theorem prefix_of_insert (pool : Pool) (id : String) (row : AlocQuestionCache) :
    pool.entries <+: (pool.insert id row).entries := by
  cases hget : pool.get id with
  | none =>
    rw [Table.entries_insert hget]
    exact List.prefix_append ..
  | some held =>
    have hmem : id ∈ pool.entries.map (·.1) := Table.mem_keys.2 ⟨held, hget⟩
    have hheld : pool.insert id row = pool := dif_pos hmem
    exact hheld.symm ▸ List.prefix_rfl

theorem prefix_of_persist : ∀ (drafts : List RawDraft) (pool : Pool),
    pool.entries <+: (persist pool drafts subject examType).entries
  | [], _ => List.prefix_rfl
  | d :: drafts, pool =>
    (prefix_of_insert pool d.id (d.row subject examType)).trans (prefix_of_persist drafts (pool.insert d.id _))

variable (subject examType year) in
theorem prefix_of_matching {pool pool' : Pool} (h : pool.entries <+: pool'.entries) :
    matching pool subject examType year <+: matching pool' subject examType year :=
  h.filter _

variable (subject examType year) in
theorem count_le {pool pool' : Pool} (h : pool.entries <+: pool'.entries) :
    count pool subject examType year ≤ count pool' subject examType year :=
  (prefix_of_matching subject examType year h).length_le

/-- The count grows just where a matching question is new. -/
theorem count_eq_iff {pool pool' : Pool} (h : pool.entries <+: pool'.entries) :
    count pool' subject examType year = count pool subject examType year ↔
      NothingNew subject examType year pool pool' := by
  have hgrows := prefix_of_matching subject examType year h
  constructor
  · intro hcount e he
    rwa [hgrows.eq_of_length hcount.symm]
  · intro hnothing
    have hnodup : (matching pool' subject examType year).Nodup := (Table.entries_nodup pool').filter _
    exact le_antisymm (List.subperm_of_subset hnodup hnothing).length_le (count_le subject examType year h)

theorem kept_of_prefix {pool pool' : Pool} (h : pool.entries <+: pool'.entries) {id : String}
    {row : AlocQuestionCache} (hrow : pool.get id = some row) : pool'.get id = some row :=
  Table.get_of_mem (h.subset (Table.mem_of_get hrow))

end Pool

/-! ## The walk -/

section Walk

variable {service} {subject examType : String} {year : Option Int} {limit cachedCount : Nat}

theorem walk_full {n : Nat} {w : Progress} (h : limit ≤ w.pooled) (s : Import) :
    walk service subject examType year limit cachedCount n w s = (s, .ok w) := by
  cases n with
  | zero => rfl
  | succ n =>
    unfold walk
    rw [if_pos h]
    rfl

/-- A page that fails. -/
theorem walk_failed {n : Nat} {w : Progress} {s : Import} {e : HttpError} (hfull : ¬limit ≤ w.pooled)
    (hcall : (callAloc service subject examType year w.cursor limit s).2 = .error e) :
    walk service subject examType year limit cachedCount (n + 1) w s =
      ({ s with calls := s.calls + 1 }, if cachedCount < w.pooled then .ok w else .error e) := by
  unfold walk
  rw [if_neg hfull, tries_bind, hcall]
  dsimp only
  split
  · rfl
  · rfl

theorem store_run (batch : Batch) {s : Import} {pooled : Nat} (hpooled : pooled = count s.pool subject examType year) :
    store batch subject examType year pooled s =
      ({ s with pool := persist s.pool batch.drafts subject examType },
        .ok (count (persist s.pool batch.drafts subject examType) subject examType year)) := by
  unfold store
  split
  · rename_i hempty
    rw [hempty, hpooled]
    rfl
  · rfl

/-- A page that arrives. -/
theorem walk_arrived {n : Nat} {w : Progress} {s : Import} {batch : Batch} (hfull : ¬limit ≤ w.pooled)
    (hpooled : w.pooled = count s.pool subject examType year)
    (hcall : (callAloc service subject examType year w.cursor limit s).2 = .ok batch) :
    walk service subject examType year limit cachedCount (n + 1) w s =
      match batch.next with
      | none => (s.stored batch subject examType, .ok ⟨w.cursor, batch.creditsRemaining.or w.creditsRemaining,
          count (s.stored batch subject examType).pool subject examType year⟩)
      | some c => walk service subject examType year limit cachedCount n
          ⟨some c, batch.creditsRemaining.or w.creditsRemaining,
            count (s.stored batch subject examType).pool subject examType year⟩ (s.stored batch subject examType) := by
  have hstore : store batch subject examType year w.pooled { s with calls := s.calls + 1 } = _ :=
    store_run batch hpooled
  conv_lhs => unfold walk
  rw [if_neg hfull, tries_bind, hcall]
  dsimp only
  rw [show (callAloc service subject examType year w.cursor limit s).1 = { s with calls := s.calls + 1 } from rfl,
    bind_of_ok hstore]
  cases batch.next with
  | none => rfl
  | some c => rfl

/-- A walk makes a call a page, and rows only join the pool. -/
theorem walk_grows : ∀ {n : Nat} {w : Progress} {s t : Import} {result : Except HttpError Progress},
    w.pooled = count s.pool subject examType year →
    walk service subject examType year limit cachedCount n w s = (t, result) →
      s.pool.entries <+: t.pool.entries ∧ t.calls ≤ s.calls + n
  | 0, w, s, t, result, _, h => by
    cases h
    exact ⟨List.prefix_rfl, le_refl _⟩
  | n + 1, w, s, t, result, hpooled, h => by
    by_cases hfull : limit ≤ w.pooled
    · rw [walk_full hfull] at h
      cases h
      exact ⟨List.prefix_rfl, by omega⟩
    cases hcall : (callAloc service subject examType year w.cursor limit s).2 with
    | error e =>
      rw [walk_failed hfull hcall] at h
      cases h
      exact ⟨List.prefix_rfl, by dsimp only; omega⟩
    | ok batch =>
      have hpage : s.pool.entries <+: (s.stored batch subject examType).pool.entries := prefix_of_persist ..
      have hcalls : (s.stored batch subject examType).calls = s.calls + 1 := rfl
      rw [walk_arrived hfull hpooled hcall] at h
      cases hnext : batch.next with
      | none =>
        rw [hnext] at h
        cases h
        exact ⟨hpage, by omega⟩
      | some c =>
        rw [hnext] at h
        obtain ⟨hrest, hle⟩ := walk_grows rfl h
        exact ⟨hpage.trans hrest, by omega⟩

/-- A walk fails where a page fails while nothing that matches has been found since it began. -/
theorem walk_error_iff : ∀ {n : Nat} {w : Progress} {s : Import}, w.pooled = count s.pool subject examType year →
    cachedCount ≤ w.pooled →
    ((∃ t e, walk service subject examType year limit cachedCount n w s = (t, .error e)) ↔
      w.pooled = cachedCount ∧ cachedCount < limit ∧ Stale service subject examType year limit n w.cursor s)
  | 0, w, s, _, _ => by
    refine iff_of_false ?_ ?_
    · rintro ⟨t, e, h⟩
      cases h
    · rintro ⟨-, -, h⟩
      exact h
  | n + 1, w, s, hpooled, hle => by
    by_cases hfull : limit ≤ w.pooled
    · rw [walk_full hfull]
      refine iff_of_false ?_ ?_
      · rintro ⟨t, e, h⟩
        cases h
      · rintro ⟨heq, hlt, -⟩
        omega
    unfold Stale
    cases hcall : (callAloc service subject examType year w.cursor limit s).2 with
    | error e =>
      rw [walk_failed hfull hcall]
      by_cases hfound : cachedCount < w.pooled
      · rw [if_pos hfound]
        refine iff_of_false ?_ fun h => by omega
        rintro ⟨t, e', h⟩
        cases h
      · rw [if_neg hfound]
        exact iff_of_true ⟨_, e, rfl⟩ ⟨by omega, by omega, trivial⟩
    | ok batch =>
      have hpage : s.pool.entries <+: (s.stored batch subject examType).pool.entries := prefix_of_persist ..
      have hgrows := count_le subject examType year hpage
      rw [walk_arrived hfull hpooled hcall]
      cases hnext : batch.next with
      | none =>
        refine iff_of_false ?_ ?_
        · rintro ⟨t, e, h⟩
          cases h
        · rintro ⟨-, -, -, c, hc, -⟩
          rw [hnext] at hc
          cases hc
      | some c =>
        -- The rest of the walk fails from a count that this page must not have raised.
        have hle' : cachedCount ≤ count (s.stored batch subject examType).pool subject examType year := by omega
        refine (walk_error_iff rfl hle').trans ?_
        dsimp only
        rw [← count_eq_iff hpage]
        constructor
        · rintro ⟨hsame, hlt, hstale⟩
          exact ⟨by omega, hlt, by omega, c, hnext, hstale⟩
        · rintro ⟨hsame, hlt, hnothing, c', hc, hstale⟩
          rw [hnext] at hc
          cases hc
          exact ⟨by omega, hlt, hstale⟩

end Walk

/-! ## Every import -/

section Fetch

variable {service} {params : Params} {pool : Pool}

/-- What is taken of the matching rows, in any order, is as many different ones. -/
theorem page_rows {skip : Nat} (hskip : params.limit + skip ≤ (params.found service pool).length ∨ skip = 0) :
    ((service.page skip params.limit (params.found service pool)).map (·.1)).Nodup ∧
      (∀ e ∈ service.page skip params.limit (params.found service pool), e ∈ params.found service pool) ∧
      (service.page skip params.limit (params.found service pool)).length =
        min params.limit (params.found service pool).length := by
  have hperm := service.scan.perm (params.found service pool)
  have hsub : (service.page skip params.limit (params.found service pool)).Sublist
      (service.scan.order (params.found service pool)) := (List.take_sublist ..).trans (List.drop_sublist ..)
  refine ⟨?_, fun e he => hperm.mem_iff.1 (hsub.mem he), ?_⟩
  · refine List.Nodup.sublist (hsub.map _) ?_
    rw [(hperm.map _).nodup_iff]
    exact pool.nodup.sublist (List.filter_sublist.map _)
  · unfold Service.page
    rw [List.length_take, List.length_drop, hperm.length_eq]
    omega

/-- A request that the pool can answer. -/
theorem fetchDraft_of_le (h : params.limit ≤ (params.found service pool).length) :
    ∃ skip, params.limit + skip ≤ (params.found service pool).length ∧ fetchDraft service params ⟨pool, 0⟩ =
      (⟨pool, 0⟩, .ok ⟨(service.page skip params.limit (params.found service pool)).map fun e => rowToDraft e.2, none,
        true⟩) := by
  have hskip := Nat.mod_lt service.draw (Nat.add_one_pos ((params.found service pool).length - params.limit))
  refine ⟨service.draw % ((params.found service pool).length - params.limit + 1), by omega, ?_⟩
  unfold fetchDraft
  rw [reads_bind]
  exact congrFun (if_pos h) _

/-- The walk of a request, from the pool as it is. -/
def Params.walked (service : Service) (params : Params) (pool : Pool) : Import × Except HttpError Progress :=
  walk service (params.subjectKey service) (params.examTypeKey service) params.year params.limit
    (params.found service pool).length maxPages ⟨none, none, (params.found service pool).length⟩ ⟨pool, 0⟩

theorem walked_error_iff : (∃ t e, params.walked service pool = (t, .error e)) ↔
    (params.found service pool).length < params.limit ∧ Stale service (params.subjectKey service)
      (params.examTypeKey service) params.year params.limit maxPages none ⟨pool, 0⟩ :=
  (walk_error_iff (w := ⟨none, none, (params.found service pool).length⟩) (s := ⟨pool, 0⟩) rfl (le_refl _)).trans
    ⟨And.right, fun h => ⟨rfl, h⟩⟩

/-- A request that the pool cannot answer. -/
theorem fetchDraft_of_lt (h : ¬params.limit ≤ (params.found service pool).length) {t : Import}
    {result : Except HttpError Progress} (hwalk : params.walked service pool = (t, result)) :
    fetchDraft service params ⟨pool, 0⟩ = (t, result.map fun w =>
      ⟨(service.page 0 params.limit (params.found service t.pool)).map fun e => rowToDraft e.2, w.creditsRemaining,
        false⟩) := by
  unfold fetchDraft
  rw [reads_bind]
  refine (congrFun (if_neg h) _).trans ?_
  cases result with
  | error e => exact bind_of_error hwalk
  | ok w => exact bind_of_ok hwalk

/-- An import keeps its promises, unless pages that bring nothing new are followed by one that fails. -/
theorem fetchDraft_serves_iff (service : Service) (params : Params) (pool : Pool) :
    Serves service params pool (fetchDraft service params ⟨pool, 0⟩).1 (fetchDraft service params ⟨pool, 0⟩).2 ↔
      ¬StaleWalk service params pool := by
  by_cases hfull : params.limit ≤ (params.found service pool).length
  · obtain ⟨skip, hskip, hrun⟩ := fetchDraft_of_le hfull
    rw [hrun]
    refine iff_of_true ⟨Nat.zero_le _, fun e he => ?_, fun draft hdraft => ?_, fun _ _ h => h, fun _ => rfl⟩ ?_
    · cases he
    · cases hdraft
      exact ⟨_, rfl, page_rows (.inl hskip)⟩
    · rintro ⟨hlt, -⟩
      omega
  · rcases hwalk : params.walked service pool with ⟨t, result⟩
    obtain ⟨hgrows, hcalls⟩ := walk_grows rfl hwalk
    rw [fetchDraft_of_lt hfull hwalk]
    constructor
    · rintro hserves ⟨hlt, ⟨batch, hfirst⟩, hstale⟩
      obtain ⟨t', e, hwalk'⟩ := walked_error_iff.2 ⟨hlt, hstale⟩
      rw [hwalk] at hwalk'
      cases hwalk'
      obtain ⟨e', he'⟩ := hserves.failing e rfl
      rw [hfirst] at he'
      cases he'
    · intro hfresh
      refine ⟨by simpa using hcalls, fun e he => ?_, fun draft hdraft => ?_, fun _ _ => kept_of_prefix hgrows,
        fun hle => absurd hle hfull⟩
      · cases result with
        | ok w => cases he
        | error e' =>
          obtain ⟨hlt, hstale⟩ := walked_error_iff.1 ⟨t, e', hwalk⟩
          cases hfirst : params.firstCall service pool with
          | error d => exact ⟨d, rfl⟩
          | ok batch => exact absurd ⟨hlt, ⟨batch, hfirst⟩, hstale⟩ hfresh
      · cases result with
        | error e => cases hdraft
        | ok w =>
          cases hdraft
          exact ⟨_, rfl, page_rows (.inr rfl)⟩

end Fetch

namespace Example

def question : AlocQuestion :=
  { id := some "q1", text := some "2 + 2"
    options := fun letter => if letter = "A" then some "3" else if letter = "B" then some "4" else none
    correctAnswer := some "B", subject := some "maths", year := some 2019, imageUrl := none, topic := none }

/-- One page with the question, and then no more calls for a minute. -/
def limited (call : Nat) (_ : List (String × String)) : Reply :=
  if call = 0 then .answered 200 (some ⟨[some question], some 7, some "page 2", true, none, none⟩)
  else .answered 429 none

def aloc : Service :=
  { apiKey := some "key", toLowerCase := String.ofList, remote := limited, scan := ⟨id, fun _ => .refl _⟩, draw := 0 }

/-- The question is in the pool already. -/
def pool : Pool := Table.empty.insert "q1" ⟨"maths", "jamb", some 2019, "2 + 2", ["3", "4"], 1, some "maths"⟩

end Example

open Example in
/-- Of two questions one is held, and the page that repeats it is followed by one that fails: nothing is served. -/
theorem held_but_not_served : ¬Serves aloc ⟨"maths", "jamb", none, 2⟩ pool
    (fetchDraft aloc ⟨"maths", "jamb", none, 2⟩ ⟨pool, 0⟩).1
    (fetchDraft aloc ⟨"maths", "jamb", none, 2⟩ ⟨pool, 0⟩).2 := by
  intro h
  obtain ⟨e, he⟩ := h.failing (.serviceUnavailable
    "ALOC is rate-limiting us right now. Wait a minute and import again — anything already imported is kept.") (by
      decide)
  have hok : (Params.firstCall aloc ⟨"maths", "jamb", none, 2⟩ pool).isOk = true := by decide
  rw [he] at hok
  cases hok

end Livetich.Exams.Aloc
