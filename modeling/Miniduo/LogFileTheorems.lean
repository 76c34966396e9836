import Miniduo.LogFile
import Miniduo.LoggingTheorems

/-!
# The descriptors of a logger

A logger has one log file open at a time and writes to no other descriptor, and its destructor leaves
none open (`descriptors_of_run`).
-/

namespace Miniduo
namespace LogFile

/-! ## Steps -/

section
variable (localtime_r : ℤ → Tm)

/-- The name of a file that is opened now. -/
def openedName (l : LogFile) : Bytes :=
  Logger.newname l.fileDir_ l.fileBaseName_ (localtime_r l.lastRotate_)

/-- Another file in place of the present one. -/
def rotated (l : LogFile) (now : ℤ) (newfd : ℕ) : LogFile :=
  let name := ({ l with lastRotate_ := now } : LogFile).openedName localtime_r
  { l with
    lastRotate_ := now
    fds := Function.update (Function.update l.fds l.fd_ none) newfd (some name)
    fd_ := newfd
    past := l.past ++ [l.current]
    current := ⟨some name, []⟩ }

/-- `tryRotate` finds the present file neither old nor large. -/
def Lasts (l : LogFile) (now : ℤ) : Prop :=
  ∃ name, l.fds l.fd_ = some name ∧ now - l.lastRotate_ < l.rotateInterval_ ∧
    (l.files name).length < Logger.FILE_SIZE

/-- What the actions do. -/
inductive Stepped (l : LogFile) : Action → LogFile → Prop
  | logger {a : Logger.Action} {logger : Logger} (hexec : l.logger.exec a = .ok logger) :
    Stepped l (.logger a) (({ l.put (l.wrote a) with logger := logger } : LogFile).follow a)
  | kept {now : ℤ} {newfd : ℕ} (hlasts : l.isfilelog_ = true → l.Lasts now) :
    Stepped l (.check now newfd) { l with checking := false }
  | rotated {now : ℤ} {newfd : ℕ} (hfile : l.isfilelog_ = true) (hnow : 0 < now)
    (hdue : ¬ l.Lasts now) :
    Stepped l (.check now newfd) { l.rotated localtime_r now newfd with checking := false }
  | opened {newfd : ℕ} (hfd : l.fd_ = 1) :
    Stepped l (.switch newfd) { l with
      fds := Function.update l.fds newfd (some (l.openedName localtime_r))
      switching := .opened newfd }
  | set {newfd : ℕ} (hopened : l.switching = .opened newfd) :
    Stepped l .setfd { l.setfd newfd with switching := .set }
  | filelog : Stepped l .setfilelog { l with isfilelog_ := true, switching := .no }
  | baseName (basename : Bytes) :
    Stepped l (.setFileBaseName basename) { l with fileBaseName_ := basename }
  | interval (interval : ℤ) :
    Stepped l (.setRotateInterval interval) { l with rotateInterval_ := interval }

variable {localtime_r : ℤ → Tm} {l l' : LogFile} {a : Action}

lemma openNewLogfile_eq {newfd : ℕ} (hpos : 0 < l.lastRotate_) :
    l.openNewLogfile localtime_r newfd = .ok { l with
      fds := Function.update l.fds newfd (some (l.openedName localtime_r)) } := by
  rw [openNewLogfile, assertThat_pos hpos, except_ok_bind]
  rfl

/-- `tryRotate` returns when a log file is open, and then it leaves a lasting file or rotates. -/
lemma tryRotate_eq (localtime_r : ℤ → Tm) (l : LogFile) {now : ℤ} (newfd : ℕ) (hnow : 0 < now)
    (hopen : l.isfilelog_ = true → l.fds l.fd_ ≠ none) :
    (l.isfilelog_ = true → l.Lasts now) ∧ l.tryRotate localtime_r now newfd = .ok l ∨
      l.isfilelog_ = true ∧ ¬ l.Lasts now ∧
        l.tryRotate localtime_r now newfd = .ok (l.rotated localtime_r now newfd) := by
  unfold tryRotate
  by_cases hfile : l.isfilelog_ = true
  · rw [if_neg (by rw [hfile]; decide)]
    split
    · exact absurd ‹_› (hopen hfile)
    · rename_i name hname
      by_cases hlasts : now - l.lastRotate_ < l.rotateInterval_ ∧
          (l.files name).length < Logger.FILE_SIZE
      · rw [if_pos hlasts]
        exact Or.inl ⟨fun _ => ⟨name, hname, hlasts⟩, rfl⟩
      · rw [if_neg hlasts, openNewLogfile_eq (by exact hnow), except_ok_bind]
        refine Or.inr ⟨hfile, ?_, ?_⟩
        · rintro ⟨name', hname', hold, hsize⟩
          rw [hname, Option.some.injEq] at hname'
          exact hlasts ⟨hold, hname' ▸ hsize⟩
        show Except.ok (LogFile.setfd _ newfd) = .ok _
        rw [LogFile.setfd, rotated]
        simp only [Function.update_self]
        rfl
  · rw [if_pos (by simpa using hfile)]
    exact Or.inl ⟨fun h => absurd h hfile, rfl⟩

/-! ## Descriptors -/

/-- The open files, and where `switchToFileLog` stands. -/
structure Tidy (l : LogFile) : Prop where
  stdout : l.fds 1 = none
  target : l.logger.dtor ≠ .returned → l.fd_ = 1 ∨ l.fds l.fd_ ≠ none
  only : ∀ fd, l.fds fd ≠ none → fd = l.fd_ ∨ l.switching = .opened fd
  opened : ∀ fd, l.switching = .opened fd → l.fd_ = 1 ∧ l.fds fd ≠ none
  plain : l.switching ≠ .no → l.isfilelog_ = false
  filelog : l.isfilelog_ = true ∨ l.switching = .set → l.fd_ ≠ 1
  ended : l.logger.dtor ≠ .notCalled → l.switching = .no
  closed : l.logger.dtor = .returned → ∀ fd, l.fds fd = none
  checks : l.checking = true → l.logger.backend = .waiting
  joined : l.logger.dtor = .returned → l.logger.backend = .returned
  positive : 0 < l.lastRotate_

/-- The logger goes on, and no file is opened or closed. -/
lemma Tidy.advance (h : l.Tidy) {bytes : Bytes} {logger : Logger} {checking : Bool}
    (hdtor : logger.dtor = .returned ↔ l.logger.dtor = .returned)
    (hended : logger.dtor ≠ .notCalled → l.switching = .no)
    (hchecks : checking = true → logger.backend = .waiting)
    (hjoined : logger.dtor = .returned → logger.backend = .returned) :
    Tidy { l.put bytes with logger := logger, checking := checking } where
  stdout := h.stdout
  target := fun hd => h.target fun hd' => hd (hdtor.mpr hd')
  only := h.only
  opened := h.opened
  plain := h.plain
  filelog := h.filelog
  ended := hended
  closed := fun hd => h.closed (hdtor.mp hd)
  checks := hchecks
  joined := hjoined
  positive := h.positive

lemma writing_of_allowed {logger : Logger}
    (h : (∃ ret, logger.allowed (.write ret)) ∨ logger.allowed .endWrite) :
    ∃ buf tosend, logger.backend = .writing buf tosend := by
  unfold Logger.allowed at h
  cases hbackend : logger.backend with
  | writing buf tosend => exact ⟨buf, tosend, rfl⟩
  | _ => simp [hbackend] at h

/-- The destructor closes the last file. -/
lemma Tidy.join (h : l.Tidy) (hdtor : l.logger.dtor = .joining)
    (hbackend : l.logger.backend = .returned) {bytes : Bytes} :
    (({ l.put bytes with logger := { l.logger with dtor := .returned } } : LogFile).follow
      .join).Tidy := by
  have hno : l.switching = .no := h.ended (by rw [hdtor]; decide)
  have hchecking : ¬ l.checking = true := by
    intro hc
    have hwaiting := h.checks hc
    rw [hbackend] at hwaiting
    cases hwaiting
  have honly : ∀ fd, l.fds fd ≠ none → fd = l.fd_ :=
    fun fd hfd => (h.only fd hfd).resolve_right (by rw [hno]; simp)
  have hclosed : ∀ fd, Function.update l.fds l.fd_ none fd = none := by
    intro fd
    by_cases hfd : fd = l.fd_
    · rw [hfd, Function.update_self]
    · rw [Function.update_of_ne hfd]
      exact by_contra fun hne => hfd (honly fd hne)
  show Tidy (if l.fd_ ≠ 1 then LogFile.close _ l.fd_ else _)
  by_cases hfd : l.fd_ = 1
  · rw [if_neg (not_not.mpr hfd)]
    have hnone : ∀ fd, l.fds fd = none := by
      intro fd
      by_contra hne
      have heq := honly fd hne
      rw [heq, hfd] at hne
      exact hne h.stdout
    exact
      { stdout := h.stdout
        target := fun hd => absurd rfl hd
        only := h.only
        opened := h.opened
        plain := h.plain
        filelog := h.filelog
        ended := fun _ => hno
        closed := fun _ => hnone
        checks := fun hc => absurd hc hchecking
        joined := fun _ => hbackend
        positive := h.positive }
  · rw [if_pos hfd]
    exact
      { stdout := hclosed 1
        target := fun hd => absurd rfl hd
        only := fun fd hne => absurd (hclosed fd) hne
        opened := fun fd hopened => absurd (hno.symm.trans hopened) (by simp)
        plain := h.plain
        filelog := h.filelog
        ended := fun _ => hno
        closed := fun _ => hclosed
        checks := fun hc => absurd hc hchecking
        joined := fun _ => hbackend
        positive := h.positive }

lemma Tidy.logger (h : l.Tidy) {a : Logger.Action} {logger : Logger}
    (hallowed : l.allowed (.logger a)) (hexec : l.logger.exec a = .ok logger) :
    (({ l.put (l.wrote a) with logger := logger } : LogFile).follow a).Tidy := by
  obtain ⟨hlogger, hmore⟩ := hallowed
  -- while the backend is elsewhere, the logger is not in front of `tryRotate`
  have hidle : l.logger.backend ≠ .waiting → ¬ l.checking = true := fun hne hc => hne (h.checks hc)
  have hlives : l.logger.backend ≠ .returned → l.logger.dtor ≠ .returned :=
    fun hne hd => hne (h.joined hd)
  cases a with
  | append timeNow tid msg =>
    cases hexec
    exact h.advance Iff.rfl h.ended h.checks h.joined
  | test =>
    cases hexec
    have htop : l.logger.backend = .top := hlogger
    refine h.advance Iff.rfl h.ended (fun hc => of_decide_eq_true hc) fun hd => ?_
    exact absurd hd (hlives (by rw [htop]; decide))
  | wait =>
    cases hexec
    exact h.advance Iff.rfl h.ended h.checks h.joined
  | swap =>
    cases hexec
    refine h.advance Iff.rfl h.ended (fun hc => ?_) fun hd => ?_
    · have hfalse : l.checking = false := hmore
      have hc : l.checking = true := hc
      rw [hfalse] at hc
      cases hc
    · exact absurd hd (hlives (by rw [hlogger.1]; decide))
  | write ret =>
    cases hexec
    have hdtor : (l.logger.write ret).dtor = l.logger.dtor := by
      unfold Logger.write
      split <;> (try split) <;> rfl
    obtain ⟨buf, tosend, hbackend⟩ := writing_of_allowed (Or.inl ⟨ret, hlogger⟩)
    refine h.advance (by rw [hdtor]) (by rw [hdtor]; exact h.ended) (fun hc => ?_) fun hd => ?_
    · exact absurd hc (hidle (by rw [hbackend]; simp))
    · rw [hdtor] at hd
      exact absurd hd (hlives (by rw [hbackend]; simp))
  | endWrite =>
    cases hexec
    obtain ⟨buf, tosend, hbackend⟩ := writing_of_allowed (Or.inr hlogger)
    refine h.advance Iff.rfl h.ended (fun hc => ?_) fun hd => ?_
    · exact absurd hc (hidle (by rw [hbackend]; simp))
    · exact absurd hd (hlives (by rw [hbackend]; simp))
  | destroy =>
    cases hexec
    have hdtor : l.logger.dtor = .notCalled := hlogger
    refine h.advance ?_ (fun _ => hmore) h.checks fun hd => by cases hd
    rw [hdtor]
    simp
  | stop =>
    cases hexec
    have hdtor : l.logger.dtor = .called := hlogger
    refine h.advance ?_ (fun _ => h.ended (by rw [hdtor]; decide)) h.checks fun hd => by cases hd
    rw [hdtor]
    simp
  | join =>
    cases hexec
    exact h.join hlogger.1 hlogger.2

/-- In front of `tryRotate` the destructor has not returned. -/
lemma Tidy.checking (h : l.Tidy) (hchecking : l.checking = true) : l.logger.dtor ≠ .returned := by
  intro hd
  have hwaiting := h.checks hchecking
  rw [h.joined hd] at hwaiting
  cases hwaiting

lemma Tidy.rotated (h : l.Tidy) {now : ℤ} {newfd : ℕ} (hchecking : l.checking = true)
    (hfile : l.isfilelog_ = true) (hnow : 0 < now) (hfresh : (l.close l.fd_).Fresh newfd) :
    Tidy { l.rotated localtime_r now newfd with checking := false } := by
  have hlives := h.checking hchecking
  have hno : l.switching = .no := by
    by_contra hne
    rw [h.plain hne] at hfile
    cases hfile
  obtain ⟨hne, hclosed⟩ := hfresh
  have hopen : ∀ fd, (Function.update (Function.update l.fds l.fd_ none) newfd
      (some (({ l with lastRotate_ := now } : LogFile).openedName localtime_r))) fd ≠ none →
      fd = newfd := by
    intro fd hfd
    by_contra hother
    rw [Function.update_of_ne hother] at hfd
    by_cases hold : fd = l.fd_
    · rw [hold, Function.update_self] at hfd
      exact hfd rfl
    · rw [Function.update_of_ne hold] at hfd
      exact hold ((h.only fd hfd).resolve_right (by rw [hno]; simp))
  exact
    { stdout := by
        by_contra hstdout
        exact hne (hopen 1 hstdout).symm
      target := fun _ => Or.inr (by simp [LogFile.rotated])
      only := fun fd hfd => Or.inl (hopen fd hfd)
      opened := fun fd hopened => absurd (hno.symm.trans hopened) (by simp)
      plain := fun hswitching => absurd hno hswitching
      filelog := fun _ => hne
      ended := fun _ => hno
      closed := fun hd => absurd hd hlives
      checks := fun hc => by cases hc
      joined := h.joined
      positive := hnow }

lemma Tidy.step (h : l.Tidy) (hallowed : l.allowed a) (hstepped : l.Stepped localtime_r a l') :
    l'.Tidy := by
  cases hstepped with
  | logger hexec => exact h.logger hallowed hexec
  | kept hlasts => exact { h with checks := fun hc => by cases hc }
  | rotated hfile hnow _ => exact h.rotated hallowed.1 hfile hnow hallowed.2.2
  | @opened newfd hfd =>
    obtain ⟨hno, hdtor, hne, hclosed⟩ := hallowed
    have hnone : ∀ fd, l.fds fd = none := by
      intro fd
      by_contra hopen
      have heq := (h.only fd hopen).resolve_right (by rw [hno]; simp)
      rw [heq, hfd] at hopen
      exact hopen h.stdout
    have hplain : l.isfilelog_ = false := by
      rw [← Bool.not_eq_true]
      exact fun hfile => h.filelog (Or.inl hfile) hfd
    exact
      { stdout := (Function.update_of_ne hne.symm ..).trans h.stdout
        target := fun _ => Or.inl hfd
        only := by
          intro fd hopen
          right
          by_contra hother
          refine hopen ((Function.update_of_ne ?_ ..).trans (hnone fd))
          rintro rfl
          exact hother rfl
        opened := by
          intro fd hopened
          obtain rfl := Switching.opened.inj hopened
          exact ⟨hfd, by simp⟩
        plain := fun _ => hplain
        filelog := by
          rintro (hfile | hset)
          · exact absurd hfile (by rw [hplain]; decide)
          · cases hset
        ended := fun hd => absurd hdtor hd
        closed := fun hd => absurd (hdtor.symm.trans hd) (by decide)
        checks := h.checks
        joined := h.joined
        positive := h.positive }
  | @set newfd hopened =>
    obtain ⟨hfd, hopen⟩ := h.opened newfd hopened
    have hdtor : l.logger.dtor = .notCalled := by
      by_contra hd
      exact absurd (hopened.symm.trans (h.ended hd)) (by simp)
    exact
      { stdout := h.stdout
        target := fun _ => Or.inr hopen
        only := by
          intro fd hfd'
          rcases h.only fd hfd' with heq | heq
          · rw [heq, hfd] at hfd'
            exact absurd h.stdout hfd'
          · exact Or.inl (Switching.opened.inj (heq.symm.trans hopened))
        opened := fun fd hset => by cases hset
        plain := fun _ => h.plain (by rw [hopened]; simp)
        filelog := by
          rintro - rfl
          exact hopen h.stdout
        ended := fun hd => absurd hdtor hd
        closed := fun hd => absurd (hdtor.symm.trans hd) (by decide)
        checks := h.checks
        joined := h.joined
        positive := h.positive }
  | filelog =>
    have hset : l.switching = .set := hallowed
    have hno : ∀ fd, l.switching ≠ .opened fd := by
      intro fd
      rw [hset]
      simp
    exact
      { stdout := h.stdout
        target := h.target
        only := fun fd hfd => Or.inl ((h.only fd hfd).resolve_right (hno fd))
        opened := fun fd hopened => by cases hopened
        plain := fun hne => absurd rfl hne
        filelog := fun _ => h.filelog (Or.inr hset)
        ended := fun _ => rfl
        closed := h.closed
        checks := h.checks
        joined := h.joined
        positive := h.positive }
  | baseName basename => exact { h with }
  | interval interval => exact { h with }

/-- Every action returns but a second `switchToFileLog`, whose assertion fails. -/
lemma Tidy.returns (h : l.Tidy) (localtime_r : ℤ → Tm) (hallowed : l.allowed a) :
    (∃ l', exec localtime_r l a = .ok l' ∧ l.Stepped localtime_r a l') ∨
      exec localtime_r l a = .error .assertFailed ∧ ∃ newfd, a = .switch newfd ∧ l.fd_ ≠ 1 := by
  cases a with
  | logger a =>
    obtain ⟨logger, hexec⟩ : ∃ logger, l.logger.exec a = .ok logger := by cases a <;> exact ⟨_, rfl⟩
    refine Or.inl ⟨_, ?_, .logger hexec⟩
    show (do
      let logger ← l.logger.exec a
      return ({ l.put (l.wrote a) with logger := logger } : LogFile).follow a) = _
    rw [hexec]
    rfl
  | check now newfd =>
    have hopen : l.isfilelog_ = true → l.fds l.fd_ ≠ none := fun hfile =>
      (h.target (h.checking hallowed.1)).resolve_left (h.filelog (Or.inl hfile))
    rcases tryRotate_eq localtime_r { l with checking := false } newfd hallowed.2.1 hopen with
      ⟨hlasts, heq⟩ | ⟨hfile, hdue, heq⟩
    · exact Or.inl ⟨_, heq, .kept hlasts⟩
    · exact Or.inl ⟨_, heq, .rotated hfile hallowed.2.1 hdue⟩
  | switch newfd =>
    by_cases hfd : l.fd_ = 1
    · refine Or.inl ⟨_, ?_, .opened hfd⟩
      show l.switchToFileLog localtime_r newfd = _
      rw [switchToFileLog, assertThat_pos hfd, except_ok_bind, openNewLogfile_eq h.positive]
      rfl
    · refine Or.inr ⟨?_, newfd, rfl, hfd⟩
      show l.switchToFileLog localtime_r newfd = _
      rw [switchToFileLog, assertThat_neg hfd]
      rfl
  | setfd =>
    obtain ⟨hno, hset⟩ := hallowed
    cases hswitching : l.switching with
    | no => exact absurd hswitching hno
    | set => exact absurd hswitching hset
    | opened newfd =>
      have hexec : exec localtime_r l .setfd = .ok { l.setfd newfd with switching := .set } := by
        simp only [exec, hswitching]
        rfl
      exact Or.inl ⟨_, hexec, .set hswitching⟩
  | setfilelog => exact Or.inl ⟨_, rfl, .filelog⟩
  | setFileBaseName basename => exact Or.inl ⟨_, rfl, .baseName basename⟩
  | setRotateInterval interval => exact Or.inl ⟨_, rfl, .interval interval⟩

lemma Tidy.stepped (h : l.Tidy) (hallowed : l.allowed a) (hexec : exec localtime_r l a = .ok l') :
    l.Stepped localtime_r a l' := by
  rcases h.returns localtime_r hallowed with ⟨l₁, hexec₁, hstepped⟩ | ⟨herror, -⟩
  · rw [hexec, Except.ok.injEq] at hexec₁
    exact hexec₁ ▸ hstepped
  · rw [hexec] at herror
    cases herror

/-- What is known of the open files in every state. -/
structure Descriptors (l : LogFile) : Prop where
  /-- The backend does not write to a closed descriptor. -/
  target : l.logger.dtor ≠ .returned → l.fd_ = 1 ∨ l.fds l.fd_ ≠ none
  one : ∀ fd fd', l.fds fd ≠ none → l.fds fd' ≠ none → fd = fd'
  closed : l.logger.dtor = .returned → ∀ fd, l.fds fd = none

lemma Tidy.descriptors (h : l.Tidy) : l.Descriptors where
  target := h.target
  closed := h.closed
  one := by
    have hone : ∀ fd fd', l.fds fd ≠ none → l.fds fd' ≠ none → fd = l.fd_ → fd = fd' := by
      intro fd fd' hfd hfd' heq
      rcases h.only fd' hfd' with heq' | hopened
      · rw [heq, heq']
      · -- the present descriptor is the standard output
        rw [heq, (h.opened fd' hopened).1] at hfd
        exact absurd h.stdout hfd
    intro fd fd' hfd hfd'
    rcases h.only fd hfd with heq | hopened
    · exact hone fd fd' hfd hfd' heq
    · rcases h.only fd' hfd' with heq' | hopened'
      · exact (hone fd' fd hfd' hfd heq').symm
      · exact Switching.opened.inj (hopened.symm.trans hopened')

variable {now : ℤ} {files : Bytes → Bytes} {as : List Action}

lemma tidy_initial (hnow : 0 < now) : (initial now files).Tidy where
  stdout := rfl
  target := fun _ => Or.inl rfl
  only := fun _ hfd => absurd rfl hfd
  opened := fun _ hopened => by cases hopened
  plain := fun _ => rfl
  filelog := by
    rintro (hfile | hset)
    · cases hfile
    · cases hset
  ended := fun _ => rfl
  closed := fun _ _ => rfl
  checks := fun hc => by cases hc
  joined := fun hd => by cases hd
  positive := hnow

lemma tidy_of_run (hrun : (machine localtime_r).Run (initial now files) as l) (hnow : 0 < now) :
    l.Tidy :=
  hrun.preserves (tidy_initial hnow) fun _ _ _ h hallowed hexec =>
    h.step hallowed (h.stepped hallowed hexec)

/-- **No descriptor is leaked or used after its end**, in every run in which one thread at a time is
in `switchToFileLog` and every `open` succeeds; and every step of it returns but a second
`switchToFileLog`, whose assertion fails. -/
theorem descriptors_of_run (hrun : (machine localtime_r).Run (initial now files) as l)
    (hnow : 0 < now) :
    l.Descriptors ∧ ∀ a, (machine localtime_r).allowed l a →
      (∃ l', (machine localtime_r).exec l a = .ok l') ∨ ∃ newfd, a = .switch newfd ∧ l.fd_ ≠ 1 := by
  have htidy := tidy_of_run hrun hnow
  refine ⟨htidy.descriptors, fun a hallowed => ?_⟩
  rcases htidy.returns localtime_r hallowed with ⟨l', hexec, -⟩ | ⟨-, hsecond⟩
  · exact Or.inl ⟨l', hexec⟩
  · exact Or.inr hsecond

end

/-- A switch to a log file, a rotation that reuses the descriptor, and the end. -/
def rotatesOnce : List Action :=
  [.logger .test, .check 5 3, .switch 4, .setfd, .setfilelog, .logger (Logger.appendByte 97),
    .logger .swap, .logger (.write 6), .logger .endWrite, .logger .test, .check 86405 4,
    .logger .destroy, .logger .stop, .logger .swap, .logger .endWrite, .logger .test, .logger .join]

/-- A calendar with a day's number in place of year, month and day. -/
def dayCount (t : ℤ) : Tm := ⟨100, 0, t / 86400 + 1, t % 86400 / 3600, t % 3600 / 60, t % 60⟩

theorem descriptors_rotatesOnce : ∃ l, (machine dayCount).Run (initial 5 fun _ => []) rotatesOnce l ∧
    l.past.length = 2 ∧ l.Descriptors ∧ ∀ a, (machine dayCount).allowed l a →
      (∃ l', (machine dayCount).exec l a = .ok l') ∨ ∃ newfd, a = .switch newfd ∧ l.fd_ ≠ 1 := by
  obtain ⟨l, hrun, hl⟩ := Machine.Run.of_replay_map (machine dayCount) (initial 5 fun _ => [])
    rotatesOnce (fun l => decide (l.past.length = 2)) (by decide +kernel)
  exact ⟨l, hrun, of_decide_eq_true hl, descriptors_of_run hrun (by decide)⟩

end LogFile
end Miniduo
