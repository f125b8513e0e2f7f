import DirectoryClient.Ldif.Stream
import DirectoryClient.Proofs.Except
import DirectoryClient.Proofs.Ldif.Batch
import DirectoryClient.Scope

/-!
# A stream is a cursor

A stream hides a reader in the middle of its work. From outside it is much less: a
source and the number of records that were taken from it, or nothing. What the next
call for a record gives then depends on that number alone, because it is what a fresh
reader of the source gives after so many calls.

`Call.follow` says what each call does to such a cursor, without a reader, and
`run_streamAt` that a stream does the same however it is used. What a search opens is
said there from what the files have at the path: nothing, a directory, or a file, of
which the cursor is at the start. So a source that was opened hands out its records in
order, then its end or its error, once, and from there on there is nothing to read until
another file is opened.
-/

namespace DirectoryClient.Ldif

/-- Where a reader stands after it was asked `n` times. -/
def Reader.after (r : Reader) : Nat → Reader
  | 0 => r
  | n + 1 => r.next.2.after n

theorem Reader.next_after (r : Reader) (n : Nat) :
    (r.after n).next = (r.answer n, r.after (n + 1)) := by
  induction n generalizing r with
  | zero => rfl
  | succ n ih => exact ih r.next.2

namespace Stream

/-! ## Calls -/

/-- A call that would change entries. -/
inductive Write
  | create (r : Record)
  | replace (dn name : String) (value : Value)
  | replaceValues (dn name : String) (values : List Value)
  | replaceValue (dn name : String) (old new : Value)
  | modify (dn : String) (edits : List Edit)
  | destroy (dn : String)

/-- A call on a stream. What files there are may change from one search to the next. -/
inductive Call
  | reinit
  | search (files : Files) (base : String) (filter : Option String) (scope : Scope)
  | next
  | write (w : Write)
  | close

/-- Whether a call asks for the next record. -/
def Call.isNext : Call → Bool
  | next => true
  | _ => false

/-- Whether a call opens a source or closes it. -/
def Call.turns : Call → Bool
  | search _ _ _ _ => true
  | close => true
  | _ => false

/-- The answer to a call. -/
inductive Answer
  | ready (result : Except Error Unit)
  | searched (result : Except Error Bool)
  | next (result : Except Error (Option Record))
  | created (result : Except Error Bool)
  | written (result : Except Error Unit)
  | closed
  deriving DecidableEq

/-- What a call for the next record was answered. -/
def Answer.next? : Answer → Option (Except Error (Option Record))
  | next result => some result
  | _ => none

def write (s : Stream) : Write → Answer
  | .create r => .created (s.create r)
  | .replace dn name value => .written (s.replace dn name value)
  | .replaceValues dn name values => .written (s.replaceValues dn name values)
  | .replaceValue dn name old new => .written (s.replaceValue dn name old new)
  | .modify dn edits => .written (s.modify dn edits)
  | .destroy dn => .written (s.destroy dn)

/-- Makes a call. -/
def perform (s : Stream) : Call → Answer × Stream
  | .reinit => (.ready s.reinit.1, s.reinit.2)
  | .search files base _ _ => (.searched (s.search files base).1, (s.search files base).2)
  | .next => (.next s.next.1, s.next.2)
  | .write w => (s.write w, s)
  | .close => (.closed, s.close)

/-- Makes calls one after another. -/
def run (s : Stream) : List Call → List Answer × Stream
  | [] => ([], s)
  | call :: rest =>
      let (answer, s) := s.perform call
      let (answers, s) := run s rest
      (answer :: answers, s)

/-- The answers to those among the calls that ask for the next record. -/
def nexts (s : Stream) (calls : List Call) : List (Except Error (Option Record)) :=
  (s.run calls).1.filterMap Answer.next?

theorem run_cons (s : Stream) (call : Call) (rest : List Call) :
    s.run (call :: rest) =
      ((s.perform call).1 :: ((s.perform call).2.run rest).1, ((s.perform call).2.run rest).2) :=
  rfl

/-! ## Cursors -/

/-- A place in what a source hands out. -/
structure Cursor where
  source : Source
  /-- How many records were taken. -/
  taken : Nat

/-- The start of what was opened. A directory can be opened, but not read. -/
def Cursor.start : FileNode → Cursor
  | .file content => ⟨⟨content, none⟩, 0⟩
  | .directory => ⟨⟨[], some .isDirectory⟩, 0⟩

/-- The answer to the call for a record at a cursor, and the cursor after it. An end or
an error is given once, because there is no cursor any more. -/
def Cursor.next : Option Cursor → Except Error (Option Record) × Option Cursor
  | none => (.error .noOpenSearch, none)
  | some ⟨source, taken⟩ =>
      match (Reader.new source).answer taken with
      | .ok (some record) => (.ok (some record), some ⟨source, taken + 1⟩)
      | ending => (ending, none)

/-- The operation that a stream has not got. -/
def Write.operation : Write → Unsupported
  | create _ => .streamCreate
  | replace _ _ _ | replaceValues _ _ _ | replaceValue _ _ _ _ => .streamReplace
  | modify _ _ => .streamModify
  | destroy _ => .streamDestroy

def Write.refusal (w : Write) : Answer :=
  match w with
  | create _ => .created (.error (.unsupported w.operation))
  | _ => .written (.error (.unsupported w.operation))

/-- The answer to a call, and what it does to a cursor. -/
def Call.follow (cursor : Option Cursor) : Call → Answer × Option Cursor
  | reinit => (.ready (.ok ()), cursor)
  | search files base _ _ =>
      match files.node base with
      | .ok node => (.searched (.ok true), some (.start node))
      | .error kind => (.searched (.error (.io kind)), none)
  | next => (.next (Cursor.next cursor).1, (Cursor.next cursor).2)
  | write w => (w.refusal, cursor)
  | close => (.closed, none)

/-- Follows calls one after another. -/
def follow (cursor : Option Cursor) : List Call → List Answer × Option Cursor
  | [] => ([], cursor)
  | call :: rest =>
      let (answer, cursor) := call.follow cursor
      let (answers, cursor) := follow cursor rest
      (answer :: answers, cursor)

/-- The stream that stands at a cursor. -/
def streamAt (cursor : Option Cursor) : Stream :=
  ⟨cursor.map fun c => (Reader.new c.source).after c.taken⟩

/-! ## A stream follows its cursor -/

theorem next_streamAt (cursor : Option Cursor) :
    (streamAt cursor).next = ((Cursor.next cursor).1, streamAt (Cursor.next cursor).2) := by
  cases cursor with
  | none => rfl
  | some c =>
      obtain ⟨source, taken⟩ := c
      have hnext := (Reader.new source).next_after taken
      rw [next, streamAt, Option.map_some, Cursor.next]
      dsimp only
      rw [hnext]
      cases (Reader.new source).answer taken with
      | error e => rfl
      | ok found =>
          cases found with
          | none => rfl
          | some record => rfl

/-- What a path opens, from what there is at it. -/
theorem openSource_eq (files : Files) (path : String) :
    openSource files path =
      ((files.node path).mapError .io).map fun node => (Cursor.start node).source := by
  rw [openSource]
  cases files.node path with
  | error kind => rfl
  | ok node => cases node <;> rfl

theorem search_streamAt (cursor : Option Cursor) (files : Files) (base : String)
    (filter : Option String) (scope : Scope) :
    (streamAt cursor).perform (.search files base filter scope) =
      (((Call.search files base filter scope).follow cursor).1,
        streamAt ((Call.search files base filter scope).follow cursor).2) := by
  rw [perform, Call.follow, search, openPath, openSource_eq]
  cases files.node base with
  | error kind => rfl
  | ok node => cases node <;> rfl

theorem perform_streamAt (cursor : Option Cursor) (call : Call) :
    (streamAt cursor).perform call = ((call.follow cursor).1, streamAt (call.follow cursor).2) := by
  cases call with
  | reinit => rfl
  | search files base filter scope => exact search_streamAt cursor files base filter scope
  | next => rw [perform, next_streamAt, Call.follow]
  | write w => cases w <;> rfl
  | close => rfl

/-- Whatever calls are made, a stream gives the answers of its cursor and ends where
that does. -/
theorem run_streamAt (cursor : Option Cursor) (calls : List Call) :
    (streamAt cursor).run calls = ((follow cursor calls).1, streamAt (follow cursor calls).2) := by
  induction calls generalizing cursor with
  | nil => rfl
  | cons call rest ih =>
      rw [run_cons, perform_streamAt]
      dsimp only
      rw [ih]
      rfl

/-! ## What a source hands out -/

/-- Whether the first `n` calls for a record all give one. -/
def gives (source : Source) (n : Nat) : Bool :=
  (List.range n).all fun m => match (Reader.new source).answer m with
    | .ok (some _) => true
    | _ => false

/-- The answer to the call for a record that `n` others went before since the source
was opened: a record, the end or the error after the records, or that there is nothing
to read. -/
def handsOut (source : Source) (n : Nat) : Except Error (Option Record) :=
  if gives source n then (Reader.new source).answer n else .error .noOpenSearch

/-- The cursor after `n` calls for a record since the source was opened. -/
def cursorAfter (source : Source) (n : Nat) : Option Cursor :=
  if gives source n then some ⟨source, n⟩ else none

theorem gives_succ (source : Source) (n : Nat) :
    gives source (n + 1) = (gives source n && match (Reader.new source).answer n with
      | .ok (some _) => true
      | _ => false) := by
  rw [gives, List.range_succ, List.all_append, List.all_cons, List.all_nil, Bool.and_true, gives]

theorem next_cursorAfter (source : Source) (n : Nat) :
    Cursor.next (cursorAfter source n) = (handsOut source n, cursorAfter source (n + 1)) := by
  rw [cursorAfter, handsOut, cursorAfter, gives_succ]
  by_cases hgives : gives source n = true
  · rw [if_pos hgives, if_pos hgives, hgives, Bool.true_and, Cursor.next]
    cases (Reader.new source).answer n with
    | error e => rfl
    | ok found =>
        cases found with
        | none => rfl
        | some record => rfl
  · rw [if_neg hgives, if_neg hgives, Bool.eq_false_iff.2 hgives]
    rfl

theorem follow_cursorAfter {calls : List Call} (h : ∀ call ∈ calls, call.turns = false)
    (source : Source) (n : Nat) :
    (follow (cursorAfter source n) calls).1.filterMap Answer.next? =
      (List.range' n (calls.countP Call.isNext)).map (handsOut source) := by
  induction calls generalizing n with
  | nil => rfl
  | cons call rest ih =>
      obtain ⟨hcall, hrest⟩ := List.forall_mem_cons.1 h
      cases call with
      | search files base filter scope => cases hcall
      | close => cases hcall
      | reinit => exact ih hrest n
      | write w =>
          have hnone : w.refusal.next? = none := by cases w <;> rfl
          show List.filterMap Answer.next? (w.refusal :: (follow (cursorAfter source n) rest).1) = _
          rw [List.filterMap_cons_none hnone]
          exact ih hrest n
      | next =>
          have hsome : (Answer.next (handsOut source n)).next? = some (handsOut source n) := rfl
          show List.filterMap Answer.next? (.next (Cursor.next (cursorAfter source n)).1 ::
            (follow (Cursor.next (cursorAfter source n)).2 rest).1) = _
          rw [next_cursorAfter]
          dsimp only
          rw [List.filterMap_cons_some hsome, ih hrest (n + 1), List.countP_cons_of_pos rfl,
            List.range'_succ, List.map_cons]

/-- A stream is a cursor, however it was made and whatever calls are made: it gives the
answers of the cursor and stands where that does. A path that cannot be opened makes no
stream. And as long as no other file is opened and the stream is not closed, the calls
for a record give what the source hands out, in order, whatever is called in between. -/
theorem run_follows (calls : List Call) :
    empty.run calls = ((follow none calls).1, streamAt (follow none calls).2) ∧
    (∀ source, (ofSource source).run calls =
      ((follow (some ⟨source, 0⟩) calls).1, streamAt (follow (some ⟨source, 0⟩) calls).2)) ∧
    (∀ files path, (openPath files path).map (·.run calls) =
      ((files.node path).mapError .io).map fun node =>
        ((follow (some (.start node)) calls).1, streamAt (follow (some (.start node)) calls).2)) ∧
    ((∀ call ∈ calls, call.turns = false) → ∀ source, (ofSource source).nexts calls =
      (List.range (calls.countP Call.isNext)).map (handsOut source)) := by
  have hsource : ∀ source, (ofSource source).run calls =
      ((follow (some ⟨source, 0⟩) calls).1, streamAt (follow (some ⟨source, 0⟩) calls).2) :=
    fun source => run_streamAt (some ⟨source, 0⟩) calls
  refine ⟨run_streamAt none calls, hsource, fun files path => ?_, fun hcalls source => ?_⟩
  · rw [openPath, openSource_eq]
    cases files.node path with
    | error kind => rfl
    | ok node =>
        cases node with
        | file content => exact congrArg Except.ok (hsource ⟨content, none⟩)
        | directory => exact congrArg Except.ok (hsource ⟨[], some .isDirectory⟩)
  · rw [nexts, hsource, List.range_eq_range']
    exact follow_cursorAfter hcalls source 0

/-- A search opens a file whose second record is malformed: the first is handed out, the
error is given once, and then there is nothing to read, whatever is refused in between. A
search that finds no file gives up the one that is open. -/
theorem run_follows_malformed :
    let content := Text.bytes "dn: cn=a\n\ncn: b\n"
    let files : Files := ⟨"/d", [("a.ldif", .file content)]⟩
    let search := fun path : String => Call.search files path none .base
    let reading := [.reinit, .next, .write (.destroy "cn=a"), .next, .next]
    let record : Except Error (Option Record) := .ok (some (Record.new "cn=a"))
    (empty.run (search "/d/a.ldif" :: reading ++
        [search "/d/a.ldif", .next, search "/d/b.ldif", .next])).1 =
      [.searched (.ok true), .ready (.ok ()), .next record,
        .written (.error (.unsupported .streamDestroy)), .next (.error (.ldif 3 .noDn)),
        .next (.error .noOpenSearch), .searched (.ok true), .next record,
        .searched (.error (.io .missing)), .next (.error .noOpenSearch)] ∧
    (ofSource ⟨content, none⟩).nexts reading =
      [record, .error (.ldif 3 .noDn), .error .noOpenSearch] := by
  intro content files search reading record
  obtain ⟨hempty, -⟩ := run_follows (search "/d/a.ldif" :: reading ++
    [search "/d/a.ldif", .next, search "/d/b.ldif", .next])
  obtain ⟨-, -, -, hnexts⟩ := run_follows reading
  constructor
  · rw [hempty]
    decide +kernel
  · rw [hnexts (by decide)]
    decide +kernel

end Stream

end DirectoryClient.Ldif
