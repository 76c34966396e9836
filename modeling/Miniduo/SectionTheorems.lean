import Miniduo.LogFileTheorems

/-!
# What gets into which log file

What a logger writes goes to the standard output and then from file to file: a prefix of the
records, in their order. Only the change to the first file may come inside a record: from then on
every file gets whole records (`sectioned_of_run`).
-/

namespace Miniduo

/-! ## The records behind the backend -/

namespace Logger

/-- The logger as if no destructor had been called: what is known of the bytes does not depend on
it. -/
def undestroyed (l : Logger) : Logger := { l with dtor := .notCalled, before := 0 }

/-- A batch's size is an `int`. -/
def SmallBatch (l : Logger) : Action → Prop
  | .swap => l.msg_.length < 2 ^ 31
  | _ => True

instance (l : Logger) : ∀ a, Decidable (l.SmallBatch a)
  | .swap => inferInstanceAs (Decidable (_ < _))
  | .append .. | .test | .wait | .write _ | .endWrite | .destroy | .stop | .join => isTrue trivial

variable {l l' : Logger} {a : Action}

lemma undestroyed_write (l : Logger) (ret : ℤ) :
    (l.write ret).undestroyed = l.undestroyed.write ret := by
  obtain ⟨msg, stop, backend, dtor, appended, taken, before, written⟩ := l
  cases backend with
  | writing buf tosend =>
    simp only [Logger.write, undestroyed]
    split <;> rfl
  | _ => rfl

/-- A destructor has no part in how bytes move. -/
lemma Inv.undestroyed_step (h : l.undestroyed.Inv) (hsmall : l.SmallBatch a)
    (hallowed : l.allowed a) (hexec : l.exec a = .ok l') : l'.undestroyed.Inv := by
  have hdrains : a ≠ .stop → l.undestroyed.Drains a := by
    intro hne
    cases a with
    | swap => exact hsmall
    | stop => exact absurd rfl hne
    | _ => trivial
  cases a with
  | append timeNow tid msg =>
    cases hexec
    exact h.step (hdrains (by simp)) (show Dtor.notCalled ≠ .returned by decide) rfl
  | test =>
    cases hexec
    exact h.step (a := .test) (hdrains (by simp)) hallowed rfl
  | wait =>
    cases hexec
    exact h
  | swap =>
    cases hexec
    exact h.step (a := .swap) (hdrains (by simp)) hallowed rfl
  | write ret =>
    cases hexec
    rw [undestroyed_write]
    exact h.step (a := .write ret) (hdrains (by simp)) hallowed rfl
  | endWrite =>
    cases hexec
    exact h.step (a := .endWrite) (hdrains (by simp)) hallowed rfl
  | destroy =>
    cases hexec
    exact h
  | stop =>
    cases hexec
    exact { h with }
  | join =>
    cases hexec
    exact h

/-- When the backend holds nothing, whole records have been written. -/
lemma Inv.written_eq (h : l.Inv) (hleft : l.backend.left = []) :
    l.written = (l.appended.take l.taken).flatten := by
  have hbytes := h.bytes
  rw [hleft, List.append_nil, h.queued] at hbytes
  have hsplit : (l.appended.take l.taken).flatten ++ (l.appended.drop l.taken).flatten =
      l.appended.flatten := by rw [← List.flatten_append, List.take_append_drop]
  rw [← hsplit] at hbytes
  exact List.append_cancel_right hbytes

lemma appended_prefix (hexec : l.exec a = .ok l') : l.appended <+: l'.appended := by
  cases a with
  | append timeNow tid msg =>
    cases hexec
    exact List.prefix_append _ _
  | write ret =>
    cases hexec
    have heq : (l.write ret).appended = l.appended := by
      unfold Logger.write
      split <;> (try split) <;> rfl
    exact heq ▸ List.prefix_refl _
  | _ =>
    cases hexec
    exact List.prefix_refl _

/-- Nothing happens to a logger behind its destructor. -/
lemma returned_of_exec (hallowed : l.allowed a) (hexec : l.exec a = .ok l')
    (hd : l.dtor = .returned) : l'.dtor = .returned := by
  cases a with
  | write ret =>
    cases hexec
    have heq : (l.write ret).dtor = l.dtor := by
      unfold Logger.write
      split <;> (try split) <;> rfl
    rw [heq, hd]
  | destroy => exact absurd (hd.symm.trans hallowed) (by decide)
  | stop => exact absurd (hd.symm.trans hallowed) (by decide)
  | join =>
    cases hexec
    rfl
  | _ =>
    cases hexec
    exact hd

end Logger

namespace LogFile

/-- `written` is what the actions have written. -/
lemma exec_written {l : LogFile} {a : Logger.Action} {logger : Logger}
    (hexec : l.logger.exec a = .ok logger) : logger.written = l.logger.written ++ l.wrote a := by
  cases a with
  | write ret =>
    cases hexec
    cases hbackend : l.logger.backend with
    | writing buf tosend =>
      simp only [Logger.write, wrote, hbackend]
      split
      · rfl
      · rw [List.append_nil]
    | _ => simp only [Logger.write, wrote, hbackend, List.append_nil]
  | _ =>
    cases hexec
    exact (List.append_nil _).symm

/-! ## Sections -/

/-- All that was written between changes of the descriptor. -/
def sections (l : LogFile) : List Section := l.past ++ [l.current]

/-- What the sections put into a file. -/
def contents (sections : List Section) (name : Bytes) : Bytes :=
  ((sections.filter fun section' => section'.name = some name).map Section.bytes).flatten

/-- The bytes of the sections, in order. -/
def bytesOf (sections : List Section) : Bytes := (sections.map Section.bytes).flatten

/-- How the bytes that were written are divided. -/
structure Divided (files : Bytes → Bytes) (l : LogFile) : Prop where
  order : bytesOf l.sections = l.logger.written
  /-- Whole records stand in front of every change of the descriptor but the first. -/
  whole : ∀ k, 2 ≤ k → k ≤ l.past.length →
    ∃ n ≤ l.logger.appended.length, bytesOf (l.past.take k) = (l.logger.appended.take n).flatten
  content : ∀ name, l.files name = files name ++ contents l.sections name

/-- Where the bytes of the records are. -/
structure Sectioned (files : Bytes → Bytes) (l : LogFile) : Prop extends Divided files l where
  /-- The sections are the records in their order, up to some byte. -/
  inOrder : bytesOf l.sections <+: l.logger.appended.flatten
  /-- What is missing is in the backend's batch and in `msg_`, and is lost if the backend has
  returned. -/
  missing : bytesOf l.sections ++ (l.logger.backend.left ++ l.logger.msg_) =
    l.logger.appended.flatten

/-- The invariant: a section goes to the file that `fd_` stands for. -/
structure Inv (files : Bytes → Bytes) (l : LogFile) : Prop extends Divided files l where
  tidy : l.Tidy
  records : l.logger.undestroyed.Inv
  named : l.logger.dtor ≠ .returned → l.current.name = l.fds l.fd_
  first : l.fd_ = 1 ↔ l.past = []

variable {files : Bytes → Bytes} {l l' : LogFile} {localtime_r : ℤ → Tm}

lemma bytesOf_append (xs ys : List Section) : bytesOf (xs ++ ys) = bytesOf xs ++ bytesOf ys := by
  rw [bytesOf, List.map_append, List.flatten_append]
  rfl

lemma contents_append (xs ys : List Section) (name : Bytes) :
    contents (xs ++ ys) name = contents xs name ++ contents ys name := by
  rw [contents, List.filter_append, List.map_append, List.flatten_append]
  rfl

lemma contents_singleton (s : Section) (name : Bytes) :
    contents [s] name = if s.name = some name then s.bytes else [] := by
  by_cases h : s.name = some name
  · simp [contents, h]
  · simp [contents, h]

/-- A section starts empty. -/
lemma bytesOf_fresh (xs : List Section) (name : Option Bytes) :
    bytesOf (xs ++ [⟨name, []⟩]) = bytesOf xs := by
  rw [bytesOf_append]
  exact List.append_nil _

lemma contents_fresh (xs : List Section) (name : Option Bytes) (name' : Bytes) :
    contents (xs ++ [⟨name, []⟩]) name' = contents xs name' := by
  rw [contents_append, contents_singleton, ite_self, List.append_nil]

/-- `flush` and the destructor leave what was written. -/
lemma follow_frame (l : LogFile) (a : Logger.Action) :
    (l.follow a).sections = l.sections ∧ (l.follow a).past = l.past ∧
      (l.follow a).files = l.files ∧ (l.follow a).logger = l.logger ∧
      (l.follow a).fd_ = l.fd_ ∧ (l.follow a).current = l.current ∧
      (a ≠ .join → (l.follow a).fds = l.fds) := by
  unfold follow
  split
  · exact ⟨rfl, rfl, rfl, rfl, rfl, rfl, fun _ => rfl⟩
  · split
    · exact ⟨rfl, rfl, rfl, rfl, rfl, rfl, fun hne => absurd rfl hne⟩
    · exact ⟨rfl, rfl, rfl, rfl, rfl, rfl, fun _ => rfl⟩
  · exact ⟨rfl, rfl, rfl, rfl, rfl, rfl, fun _ => rfl⟩

/-- A write ends up in the file of the present section. -/
lemma Inv.put (h : l.Inv files) {bytes : Bytes}
    (hlives : bytes ≠ [] → l.logger.dtor ≠ .returned) (name : Bytes) :
    (l.put bytes).files name = files name ++ contents (l.put bytes).sections name := by
  have hcontent := h.content name
  rw [sections, contents_append, contents_singleton] at hcontent
  show _ = files name ++ contents (l.past ++ [⟨l.current.name, l.current.bytes ++ bytes⟩]) name
  rw [contents_append, contents_singleton]
  by_cases hbytes : bytes = []
  · rw [hbytes, List.append_nil, ← hcontent]
    unfold LogFile.put
    cases l.fds l.fd_ with
    | none => rfl
    | some name' =>
      show Function.update l.files name' (l.files name' ++ []) name = _
      rw [List.append_nil, Function.update_eq_self]
  · have hnamed := h.named (hlives hbytes)
    unfold LogFile.put
    cases hfd : l.fds l.fd_ with
    | none =>
      rw [hfd] at hnamed
      rw [hnamed] at hcontent ⊢
      simpa using hcontent
    | some name' =>
      rw [hfd] at hnamed
      rw [hnamed] at hcontent ⊢
      simp only [Option.some.injEq] at hcontent ⊢
      by_cases hname : name' = name
      · subst hname
        rw [if_pos rfl] at hcontent
        rw [if_pos rfl, Function.update_self, hcontent]
        simp only [List.append_assoc]
      · rw [if_neg hname] at hcontent
        rw [if_neg hname, Function.update_of_ne (Ne.symm hname), hcontent]

lemma Inv.logger (h : l.Inv files) {a : Logger.Action} {logger : Logger}
    (htidy : (({ l.put (l.wrote a) with logger := logger } : LogFile).follow a).Tidy)
    (hsmall : l.logger.SmallBatch a) (hallowed : l.allowed (.logger a))
    (hexec : l.logger.exec a = .ok logger) :
    (({ l.put (l.wrote a) with logger := logger } : LogFile).follow a).Inv files := by
  obtain ⟨hsections, hpast, hfiles, hlogger, hfd, hcurrent, hfds⟩ :=
    follow_frame { l.put (l.wrote a) with logger := logger } a
  have hprefix := Logger.appended_prefix hexec
  have hreturned := Logger.returned_of_exec hallowed.1 hexec
  have hwrote : l.wrote a ≠ [] → l.logger.dtor ≠ .returned := by
    intro hne hd
    refine hne ?_
    unfold wrote
    rw [h.tidy.joined hd]
    split <;> rfl
  exact
    { tidy := htidy
      records := by
        rw [hlogger]
        exact h.records.undestroyed_step hsmall hallowed.1 hexec
      order := by
        rw [hsections, hlogger]
        show bytesOf (l.past ++ [⟨l.current.name, l.current.bytes ++ l.wrote a⟩]) = logger.written
        have horder := h.order
        rw [sections, bytesOf_append] at horder
        rw [bytesOf_append, exec_written hexec, ← horder]
        simp [bytesOf]
      whole := by
        intro k hk hle
        rw [hpast, hlogger] at *
        obtain ⟨n, hn, heq⟩ := h.whole k hk hle
        refine ⟨n, hn.trans hprefix.length_le, ?_⟩
        obtain ⟨new, hnew⟩ := hprefix
        refine heq.trans ?_
        show _ = (logger.appended.take n).flatten
        rw [← hnew, List.take_append_of_le_length hn]
      content := by
        rw [hsections, hfiles]
        exact h.put hwrote
      named := by
        rw [hlogger, hcurrent, hfd]
        intro hd
        have hjoin : a ≠ .join := by
          rintro rfl
          cases hexec
          exact hd rfl
        rw [hfds hjoin]
        exact h.named fun hd' => hd (hreturned hd')
      first := by
        rw [hfd, hpast]
        exact h.first }

lemma Inv.rotated (h : l.Inv files) {now : ℤ} {newfd : ℕ}
    (htidy : Tidy { l.rotated localtime_r now newfd with checking := false })
    (hchecking : l.checking = true) (hne : newfd ≠ 1) :
    Inv files { l.rotated localtime_r now newfd with checking := false } where
  tidy := htidy
  records := h.records
  order := (bytesOf_fresh _ _).trans h.order
  whole := by
    intro k hk hle
    have hle : k ≤ (l.past ++ [l.current]).length := hle
    show ∃ n ≤ _, bytesOf ((l.past ++ [l.current]).take k) = _
    rcases Nat.lt_or_ge l.past.length k with hlt | hge
    · -- in front of `tryRotate` the backend holds nothing
      refine ⟨l.logger.taken, h.records.taken, ?_⟩
      have hall : (l.past ++ [l.current]).take k = l.past ++ [l.current] := by
        refine List.take_of_length_le ?_
        rw [List.length_append, List.length_singleton]
        omega
      have hleft : l.logger.undestroyed.backend.left = [] := by
        show l.logger.backend.left = []
        rw [h.tidy.checks hchecking]
        rfl
      have horder := h.order
      rw [sections] at horder
      rw [hall, horder]
      exact h.records.written_eq hleft
    · rw [List.take_append_of_le_length hge]
      exact h.whole k hk hge
  content := fun name => (h.content name).trans (congrArg _ (contents_fresh _ _ name).symm)
  named := by
    intro _
    simp [LogFile.rotated]
  first := by
    refine ⟨fun hfd => absurd hfd hne, fun hpast => ?_⟩
    exact absurd hpast (by simp [LogFile.rotated])

lemma Inv.step (h : l.Inv files) {a : Action}
    (hsmall : ∀ b, a = .logger b → l.logger.SmallBatch b) (hallowed : l.allowed a)
    (hstepped : l.Stepped localtime_r a l') : l'.Inv files := by
  have htidy := h.tidy.step hallowed hstepped
  cases hstepped with
  | logger hexec => exact h.logger htidy (hsmall _ rfl) hallowed hexec
  | kept hlasts => exact { h with tidy := htidy }
  | rotated hfile hnow _ => exact h.rotated htidy hallowed.1 hallowed.2.2.1
  | @opened newfd hfd =>
    have hnamed : l.logger.dtor ≠ .returned → l.current.name =
        Function.update l.fds newfd (some (l.openedName localtime_r)) l.fd_ := by
      intro hd
      rw [hfd, Function.update_of_ne hallowed.2.2.1.symm, ← hfd]
      exact h.named hd
    exact { h with tidy := htidy, named := hnamed }
  | @set newfd hopened =>
    have hfd := (h.tidy.opened newfd hopened).1
    have hpast := h.first.mp hfd
    have hne : newfd ≠ 1 := htidy.filelog (Or.inr rfl)
    exact
      { tidy := htidy
        records := h.records
        order := (bytesOf_fresh _ _).trans h.order
        whole := by
          intro k hk hle
          have hle : k ≤ (l.past ++ [l.current]).length := hle
          rw [hpast] at hle
          exact absurd hle (by simp; omega)
        content := fun name =>
          (h.content name).trans (congrArg _ (contents_fresh _ _ name).symm)
        named := fun _ => rfl
        first := by
          refine ⟨fun hfd => absurd hfd hne, fun hnil => ?_⟩
          exact absurd hnil (by simp [LogFile.setfd]) }
  | filelog => exact { h with tidy := htidy }
  | baseName basename => exact { h with tidy := htidy }
  | interval interval => exact { h with tidy := htidy }

/-! ## Every run -/

/-- Batches are smaller than `2 ^ 31` bytes. -/
def SmallBatches (l : LogFile) : Action → Prop
  | .logger a => l.logger.SmallBatch a
  | _ => True

instance (l : LogFile) : ∀ a, Decidable (l.SmallBatches a)
  | .logger a => inferInstanceAs (Decidable (l.logger.SmallBatch a))
  | .check .. | .switch _ | .setfd | .setfilelog | .setFileBaseName _ | .setRotateInterval _ =>
    isTrue trivial

lemma inv_initial {now : ℤ} (hnow : 0 < now) : (initial now files).Inv files where
  tidy := tidy_initial hnow
  records :=
    { bytes := rfl
      tosend := fun _ _ heq => by cases heq
      queued := rfl
      taken := le_refl _
      before := le_refl _
      stopping := by
        rintro (hd | hd)
        · cases hd
        · cases hd
      joined := fun hd => by cases hd }
  order := rfl
  whole := fun k hk hle => absurd (hk.trans hle) (show ¬ 2 ≤ 0 by decide)
  content := fun name => (List.append_nil _).symm
  named := fun _ => rfl
  first := ⟨fun _ => rfl, fun _ => rfl⟩

lemma Inv.exec {a : Action} (h : l.Inv files) (hsmall : l.SmallBatches a) (hallowed : l.allowed a)
    (hexec : exec localtime_r l a = .ok l') : l'.Inv files := by
  refine h.step (fun b hb => ?_) hallowed (h.tidy.stepped hallowed hexec)
  rw [hb] at hsmall
  exact hsmall

variable {now : ℤ} {as : List Action}

lemma inv_of_run (hrun : (machine localtime_r).Run (initial now files) as l) (hnow : 0 < now)
    (hsmall : (machine localtime_r).AllSteps SmallBatches (initial now files) as) :
    l.Inv files :=
  hrun.invariant hsmall (inv_initial hnow) fun _ _ _ h hsmall hallowed hexec =>
    h.exec hsmall hallowed hexec

lemma Inv.sectioned (h : l.Inv files) : l.Sectioned files := by
  have hmissing : bytesOf l.sections ++ (l.logger.backend.left ++ l.logger.msg_) =
      l.logger.appended.flatten := by
    rw [h.order, ← List.append_assoc]
    exact h.records.bytes
  exact
    { toDivided := h.toDivided
      inOrder := ⟨_, hmissing⟩
      missing := hmissing }

/-- **What is written is in the files, in the order of the records**: the last of them may be
missing, none is doubled or out of place, and a record may only be split between the standard
output and the first file, in every run whose batches are smaller than `2 ^ 31` bytes. -/
theorem sectioned_of_run (hrun : (machine localtime_r).Run (initial now files) as l)
    (hnow : 0 < now)
    (hsmall : (machine localtime_r).AllSteps SmallBatches (initial now files) as) :
    l.Sectioned files := (inv_of_run hrun hnow hsmall).sectioned

theorem sectioned_rotatesOnce : ∃ l, (machine dayCount).Run (initial 5 fun _ => []) rotatesOnce l ∧
    (l.sections.map fun s => s.bytes.length) = [0, 6, 0] ∧ l.Sectioned fun _ => [] := by
  obtain ⟨l, hrun, hl⟩ := Machine.Run.of_replay_map (machine dayCount) (initial 5 fun _ => [])
    rotatesOnce (fun l => decide ((l.sections.map fun s => s.bytes.length) = [0, 6, 0]))
    (by decide +kernel)
  exact ⟨l, hrun, of_decide_eq_true hl, sectioned_of_run hrun (by decide) (by decide +kernel)⟩

end LogFile
end Miniduo
