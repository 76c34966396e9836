import Miniduo.Lib.FixedWidth
import Miniduo.SectionTheorems

/-!
# Rotation of log files

The name of a log file tells when the file was due, in fields of fixed width, so that the files in
the order of their names are in the order in which they were written (`sorted_of_run`). And a file
that has reached its size is left at the next batch, so that it outgrows it by no more than a batch
(`bounded_of_run`).
-/

namespace Miniduo

/-! ## Decimal fields -/

/-- The digits as characters. -/
def digitByte (d : ℕ) : Byte := UInt8.ofNat (48 + d)

/-- Digits are ordered as characters. -/
lemma digitByte_lt (i j : ℕ) (hij : i < j) (hj : j < 10) : digitByte i < digitByte j := by
  rw [UInt8.lt_iff_toNat_lt, digitByte, digitByte, UInt8.toNat_ofNat', UInt8.toNat_ofNat']
  omega

/-- A number below ten is written with one digit. -/
lemma decimal_digit {n : ℕ} (hn : n < 10) : decimal n = [digitByte n] := by
  rw [decimal, Nat.toDigits_of_lt_base hn, List.map_singleton, digitChar_byte hn]
  rfl

/-- The last digit of a larger number stands behind the others. -/
lemma decimal_digits {n : ℕ} (hn : 10 ≤ n) : decimal n = decimal (n / 10) ++ [digitByte (n % 10)] := by
  rw [decimal, Nat.toDigits_of_base_le (by omega) hn, List.map_append, List.map_singleton,
    digitChar_byte (Nat.mod_lt n (by omega))]
  rfl

open FixedWidth

/-- Zero in a field of fixed width. -/
lemma numeral_zero (w : ℕ) : numeral 10 digitByte w 0 = List.replicate w 48 := by
  induction w with
  | zero => rfl
  | succ w ih => rw [numeral, Nat.zero_div, Nat.zero_mod, ih, List.replicate_succ']; rfl

/-- Zeros in front make a numeral of a number that fits. -/
lemma replicate_decimal {w n : ℕ} (hw : 0 < w) (hn : n < 10 ^ w) :
    (decimal n).length ≤ w ∧
      List.replicate (w - (decimal n).length) 48 ++ decimal n = numeral 10 digitByte w n := by
  induction w generalizing n with
  | zero => exact absurd hw (lt_irrefl 0)
  | succ w ih =>
    rcases Nat.lt_or_ge n 10 with hsmall | hlarge
    · rw [decimal_digit hsmall, numeral, Nat.div_eq_of_lt hsmall, Nat.mod_eq_of_lt hsmall,
        numeral_zero]
      exact ⟨Nat.succ_le_succ (Nat.zero_le w), rfl⟩
    · rw [pow_succ] at hn
      have hpos : 0 < w := by
        by_contra hzero
        rw [Nat.eq_zero_of_not_pos hzero, pow_zero] at hn
        omega
      obtain ⟨hle, heq⟩ := ih hpos (n := n / 10) (by omega)
      rw [decimal_digits hlarge, numeral, ← heq, List.length_append, List.length_singleton,
        Nat.add_sub_add_right, List.append_assoc]
      exact ⟨Nat.succ_le_succ hle, rfl⟩

/-- `%0*d` of a number that fits is the numeral of fixed width. -/
lemma zeroPad_eq {w n : ℕ} (hw : 0 < w) (hn : n < 10 ^ w) :
    zeroPad w n = numeral 10 digitByte w n := by
  have hsign : ¬ (n : ℤ) < 0 := not_lt.mpr (Int.natCast_nonneg n)
  rw [zeroPad, if_neg hsign]
  exact (replicate_decimal hw hn).2

/-- A year of four digits. -/
lemma decimalInt_year {y : ℕ} (hlow : 1000 ≤ y) (hhigh : y < 10000) :
    decimalInt y = numeral 10 digitByte 4 y := by
  obtain ⟨hle, heq⟩ := replicate_decimal (w := 4) (by decide) hhigh
  have hsign : ¬ (y : ℤ) < 0 := not_lt.mpr (Int.natCast_nonneg y)
  have hlength : (decimal y).length = 4 := by
    rw [decimal_digits (by omega), decimal_digits (n := y / 10) (by omega),
      decimal_digits (n := y / 10 / 10) (by omega), decimal_digit (by omega)]
    rfl
  rw [hlength] at heq
  rw [decimalInt, if_neg hsign, ← heq]
  rfl

/-! ## Calendar times -/

namespace Tm

/-- In the order in which they count. -/
def fields (t : Tm) : List ℤ := [t.tm_year, t.tm_mon, t.tm_mday, t.tm_hour, t.tm_min, t.tm_sec]

/-- The ranges of the members, and a year of four digits. -/
structure InRange (t : Tm) : Prop where
  year : 1000 ≤ t.tm_year + 1900 ∧ t.tm_year + 1900 < 10000
  mon : 0 ≤ t.tm_mon ∧ t.tm_mon ≤ 11
  mday : 1 ≤ t.tm_mday ∧ t.tm_mday ≤ 31
  hour : 0 ≤ t.tm_hour ∧ t.tm_hour ≤ 23
  min : 0 ≤ t.tm_min ∧ t.tm_min ≤ 59
  sec : 0 ≤ t.tm_sec ∧ t.tm_sec ≤ 60

/-- A field of two digits. -/
def two (n : ℤ) : Bytes := numeral 10 digitByte 2 n.toNat

/-- Two fields of two digits are ordered as the numbers. -/
lemma two_lt {m n : ℤ} (hm : 0 ≤ m) (h : m < n) (hn : n < 100) : two m < two n :=
  numeral_lt digitByte_lt (by omega) (show n.toNat < 10 ^ 2 by omega)

/-- A field of two digits. -/
lemma zeroPad_two {n : ℤ} (hn : 0 ≤ n) (hlt : n < 100) : zeroPad 2 n = two n := by
  have heq := zeroPad_eq (w := 2) (n := n.toNat) (by decide) (show n.toNat < 10 ^ 2 by omega)
  rwa [Int.toNat_of_nonneg hn] at heq

/-- The fields of a stamp. -/
def blocks (t : Tm) : List Bytes :=
  [numeral 10 digitByte 4 (t.tm_year + 1900).toNat, two (t.tm_mon + 1), two t.tm_mday, lit "-",
    two t.tm_hour, two t.tm_min, two t.tm_sec]

/-- The stamp of a time in range is its fields one after the other. -/
lemma InRange.stamp_eq {t : Tm} (h : t.InRange) : Logger.stamp t = t.blocks.flatten := by
  have hyear := decimalInt_year (y := (t.tm_year + 1900).toNat) (by have := h.year; omega)
    (by have := h.year; omega)
  rw [Int.toNat_of_nonneg (by have := h.year; omega)] at hyear
  have hmon := h.mon
  have hmday := h.mday
  have hhour := h.hour
  have hmin := h.min
  have hsec := h.sec
  rw [Logger.stamp, hyear, zeroPad_two (by omega) (by omega), zeroPad_two (by omega) (by omega),
    zeroPad_two (by omega) (by omega), zeroPad_two (by omega) (by omega),
    zeroPad_two (by omega) (by omega)]
  simp only [blocks, List.flatten_cons, List.flatten_nil, List.append_nil, List.append_assoc]

/-- **Stamps are in the order of the times.** -/
lemma InRange.stamp_lt {t t' : Tm} (h : t.InRange) (h' : t'.InRange) (hlt : t.fields < t'.fields) :
    Logger.stamp t < Logger.stamp t' := by
  rw [h.stamp_eq, h'.stamp_eq]
  refine flatten_lt ?_ ?_
  · obtain ⟨hyear, hmon, hmday, hhour, hmin, hsec⟩ := h
    obtain ⟨hyear', hmon', hmday', hhour', hmin', hsec'⟩ := h'
    -- the first field in which the times differ decides
    simp only [fields, List.cons_lt_cons_iff] at hlt
    unfold blocks
    rcases hlt with hlt | ⟨heq, hlt⟩
    · exact .rel (numeral_lt digitByte_lt (by omega)
        (show (t'.tm_year + 1900).toNat < 10 ^ 4 by omega))
    rw [heq]
    refine .cons ?_
    rcases hlt with hlt | ⟨heq, hlt⟩
    · exact .rel (two_lt (by omega) (by omega) (by omega))
    rw [heq]
    refine .cons ?_
    rcases hlt with hlt | ⟨heq, hlt⟩
    · exact .rel (two_lt (by omega) hlt (by omega))
    rw [heq]
    refine .cons (.cons ?_)
    rcases hlt with hlt | ⟨heq, hlt⟩
    · exact .rel (two_lt hhour.1 hlt (by omega))
    rw [heq]
    refine .cons ?_
    rcases hlt with hlt | ⟨heq, hlt⟩
    · exact .rel (two_lt hmin.1 hlt (by omega))
    rw [heq]
    refine .cons ?_
    rcases hlt with hlt | ⟨-, hlt⟩
    · exact .rel (two_lt hsec.1 hlt (by omega))
    · cases hlt
  · simp [blocks, two]

/-- A time is its fields. -/
lemma fields_injective : Function.Injective fields := by
  intro t t' h
  simp only [fields, List.cons.injEq, and_true] at h
  obtain ⟨hyear, hmon, hmday, hhour, hmin, hsec⟩ := h
  cases t
  cases t'
  simp_all

end Tm

/-- Up to a time, `localtime_r` is in the years of four digits and does not go back, as it would when
clocks are set back. -/
structure Calendar (localtime_r : ℤ → Tm) (last : ℤ) : Prop where
  range : ∀ t, 0 < t → t ≤ last → (localtime_r t).InRange
  forward : ∀ t t', 0 < t → t ≤ t' → t' ≤ last →
    (localtime_r t).fields < (localtime_r t').fields ∨
      (localtime_r t).fields = (localtime_r t').fields

/-- A later file has a greater name, or the same. -/
lemma Calendar.newname_le {localtime_r : ℤ → Tm} {last t t' : ℤ} (h : Calendar localtime_r last)
    (hpos : 0 < t) (hle : t ≤ t') (hlast : t' ≤ last) (fileDir_ fileBaseName_ : Bytes) :
    Logger.newname fileDir_ fileBaseName_ (localtime_r t) <
        Logger.newname fileDir_ fileBaseName_ (localtime_r t') ∨
      Logger.newname fileDir_ fileBaseName_ (localtime_r t) =
        Logger.newname fileDir_ fileBaseName_ (localtime_r t') := by
  rcases h.forward t t' hpos hle hlast with hlt | heq
  · have hstamp := (h.range t hpos (hle.trans hlast)).stamp_lt
      (h.range t' (hpos.trans_le hle) hlast) hlt
    exact take_lt_or_eq (List.append_left_lt hstamp) 4095
  · rw [Tm.fields_injective heq]
    exact Or.inr rfl

namespace LogFile

/-! ## Names -/

/-- The files that have been written to, in order. -/
def names (l : LogFile) : List Bytes := l.sections.filterMap Section.name

/-- In the order of their names. -/
def Sorted (l : LogFile) : Prop := l.names.Pairwise fun name name' => name < name' ∨ name = name'

/-- The clock does not go back and stays in front of `last`, and the file's name is chosen before
there is a file. -/
def Orderly (last : ℤ) (l : LogFile) : Action → Prop
  | .check now _ => l.lastRotate_ ≤ now ∧ now ≤ last
  | .setFileBaseName _ => l.fd_ = 1 ∧ l.switching = .no
  | _ => True

instance (last : ℤ) (l : LogFile) : ∀ a, Decidable (l.Orderly last a)
  | .check _ _ => inferInstanceAs (Decidable (_ ≤ _ ∧ _ ≤ _))
  | .setFileBaseName _ => inferInstanceAs (Decidable (_ = _ ∧ _ = _))
  | .logger _ | .switch _ | .setfd | .setfilelog | .setRotateInterval _ => isTrue trivial

variable {l l' : LogFile} {localtime_r : ℤ → Tm} {last : ℤ}

/-- Where the names come from. -/
structure Named (localtime_r : ℤ → Tm) (last : ℤ) (l : LogFile) : Prop where
  tidy : l.Tidy
  plain : l.fd_ = 1 → l.names = []
  opened : ∀ fd, l.switching = .opened fd → l.fds fd = some (l.openedName localtime_r)
  due : ∀ name ∈ l.names, ∃ t, 0 < t ∧ t ≤ l.lastRotate_ ∧
    name = Logger.newname l.fileDir_ l.fileBaseName_ (localtime_r t)
  bound : l.lastRotate_ ≤ last
  sorted : l.Sorted

/-- A file is added at the end. -/
lemma Named.snoc (h : l.Named localtime_r last) (hcal : Calendar localtime_r last) {now : ℤ}
    (hle : l.lastRotate_ ≤ now) (hlast : now ≤ last) :
    (l.names ++ [Logger.newname l.fileDir_ l.fileBaseName_ (localtime_r now)]).Pairwise
      fun name name' => name < name' ∨ name = name' := by
  rw [List.pairwise_append]
  refine ⟨h.sorted, List.pairwise_singleton _ _, fun name hname name' hname' => ?_⟩
  obtain ⟨t, hpos, ht, rfl⟩ := h.due name hname
  rw [List.mem_singleton.mp hname']
  exact hcal.newname_le hpos (ht.trans hle) hlast _ _

/-- The file that is opened is the last one. -/
lemma names_append (l : LogFile) (name : Bytes) {past : List Section}
    (hpast : past = l.past ++ [l.current]) :
    (past ++ [(⟨some name, []⟩ : Section)]).filterMap Section.name = l.names ++ [name] := by
  rw [hpast, List.filterMap_append]
  rfl

/-- The steps of the logger open no file. -/
lemma Named.logger (h : l.Named localtime_r last) {a : Logger.Action} {logger : Logger}
    (htidy : (({ l.put (l.wrote a) with logger := logger } : LogFile).follow a).Tidy)
    (hallowed : l.allowed (.logger a)) :
    (({ l.put (l.wrote a) with logger := logger } : LogFile).follow a).Named localtime_r last := by
  obtain ⟨hsections, -, -, -, hfd, -, hfds⟩ :=
    follow_frame { l.put (l.wrote a) with logger := logger } a
  have hnames : (({ l.put (l.wrote a) with logger := logger } : LogFile).follow a).names =
      l.names := by
    rw [names, hsections]
    show (l.past ++ [(⟨l.current.name, _⟩ : Section)]).filterMap Section.name =
      (l.past ++ [l.current]).filterMap Section.name
    rw [List.filterMap_append, List.filterMap_append]
    rfl
  -- the settings and `switching` are left alone
  have hrest : ∀ l₁ : LogFile, (l₁.follow a).switching = l₁.switching ∧
      (l₁.follow a).fileDir_ = l₁.fileDir_ ∧ (l₁.follow a).fileBaseName_ = l₁.fileBaseName_ ∧
      (l₁.follow a).lastRotate_ = l₁.lastRotate_ := by
    intro l₁
    unfold follow
    split <;> (try split) <;> exact ⟨rfl, rfl, rfl, rfl⟩
  obtain ⟨hswitching, hdir, hbase, hrotate⟩ :=
    hrest { l.put (l.wrote a) with logger := logger }
  exact
    { tidy := htidy
      plain := by
        rw [hnames, hfd]
        exact h.plain
      opened := by
        intro fd
        rw [hswitching]
        intro hopened
        have hjoin : a ≠ .join := by
          rintro rfl
          have hdtor : l.logger.dtor = .joining := hallowed.1.1
          have hno := h.tidy.ended (by rw [hdtor]; decide)
          exact absurd (hno.symm.trans hopened) (by simp)
        rw [hfds hjoin, openedName, hdir, hbase, hrotate]
        exact h.opened fd hopened
      due := by
        rw [hnames, hdir, hbase, hrotate]
        exact h.due
      bound := by
        rw [hrotate]
        exact h.bound
      sorted := by
        rw [Sorted, hnames]
        exact h.sorted }

/-- Every step keeps the names in order. -/
lemma Named.step (h : l.Named localtime_r last) (hcal : Calendar localtime_r last) {a : Action}
    (horderly : l.Orderly last a) (hallowed : l.allowed a)
    (hstepped : l.Stepped localtime_r a l') : l'.Named localtime_r last := by
  have htidy := h.tidy.step hallowed hstepped
  cases hstepped with
  | logger hexec => exact h.logger htidy hallowed
  | kept hlasts => exact { h with tidy := htidy }
  | @rotated now newfd hfile hnow _ =>
    obtain ⟨hle, hlast⟩ := horderly
    have hnames : LogFile.names { l.rotated localtime_r now newfd with checking := false } =
        l.names ++ [Logger.newname l.fileDir_ l.fileBaseName_ (localtime_r now)] :=
      names_append l _ rfl
    have hno : l.switching = .no := by
      by_contra hne
      rw [h.tidy.plain hne] at hfile
      cases hfile
    exact
      { tidy := htidy
        plain := fun hfd => absurd hfd hallowed.2.2.1
        opened := fun fd hopened => absurd (hno.symm.trans hopened) (by simp)
        due := by
          intro name hname
          rw [hnames] at hname
          rcases List.mem_append.mp hname with hold | hnew
          · obtain ⟨t, hpos, ht, heq⟩ := h.due name hold
            exact ⟨t, hpos, ht.trans hle, heq⟩
          · exact ⟨now, hnow, le_refl now, List.mem_singleton.mp hnew⟩
        bound := hlast
        sorted := by
          rw [Sorted, hnames]
          exact h.snoc hcal hle hlast }
  | @opened newfd hfd =>
    refine { h with tidy := htidy, opened := fun fd hopened => ?_ }
    obtain rfl := Switching.opened.inj hopened
    exact Function.update_self ..
  | @set newfd hopened =>
    have hname := h.opened newfd hopened
    have hnil := h.plain (h.tidy.opened newfd hopened).1
    have hnames : LogFile.names { l.setfd newfd with switching := .set } =
        l.names ++ [l.openedName localtime_r] := by
      show (l.past ++ [l.current] ++ [(⟨l.fds newfd, []⟩ : Section)]).filterMap Section.name = _
      rw [hname]
      exact names_append l _ rfl
    exact
      { tidy := htidy
        plain := fun hfd => absurd hfd (htidy.filelog (Or.inr rfl))
        opened := fun fd hset => by cases hset
        due := by
          intro name hmem
          rw [hnames, hnil, List.nil_append, List.mem_singleton] at hmem
          exact ⟨l.lastRotate_, h.tidy.positive, le_refl _, hmem⟩
        bound := h.bound
        sorted := by
          rw [Sorted, hnames]
          exact h.snoc hcal (le_refl _) h.bound }
  | filelog => exact { h with tidy := htidy, opened := fun fd hopened => by cases hopened }
  | baseName basename =>
    obtain ⟨hfd, hno⟩ := horderly
    have hnil := h.plain hfd
    refine { h with tidy := htidy, opened := fun fd hopened => ?_, due := fun name hname => ?_ }
    · exact absurd (hno.symm.trans hopened) (by simp)
    · have hname : name ∈ l.names := hname
      rw [hnil] at hname
      cases hname
  | interval interval => exact { h with tidy := htidy }

variable {now : ℤ} {files : Bytes → Bytes} {as : List Action}

/-- **Log files are in the order of their names**, in every run in which clocks do not go back. -/
theorem sorted_of_run (hcal : Calendar localtime_r last)
    (hrun : (machine localtime_r).Run (initial now files) as l) (hnow : 0 < now ∧ now ≤ last)
    (horderly : (machine localtime_r).AllSteps (Orderly last) (initial now files) as) :
    l.Sorted := by
  refine (hrun.invariant horderly (I := Named localtime_r last) ?_ ?_).sorted
  · exact
      { tidy := tidy_initial hnow.1
        plain := fun _ => rfl
        opened := fun _ hopened => by cases hopened
        due := fun _ hname => by cases hname
        bound := hnow.2
        sorted := List.Pairwise.nil }
  · exact fun l a l' h hstep hallowed hexec =>
      h.step hcal hstep hallowed (h.tidy.stepped hallowed hexec)

/-- The calendar of the example is that of January 2000. -/
lemma calendar_dayCount : Calendar dayCount (30 * 86400) where
  range := by
    intro t hpos hlast
    have hyear : (1000 : ℤ) ≤ 100 + 1900 ∧ (100 : ℤ) + 1900 < 10000 := by norm_num
    refine ⟨hyear, ?_, ?_, ?_, ?_, ?_⟩ <;> simp only [dayCount] <;> omega
  forward := by
    intro t t' hpos hle hlast
    simp only [Tm.fields, dayCount, List.cons_lt_cons_iff, List.cons.injEq, lt_irrefl, false_or,
      true_and, and_true, and_false, or_false]
    omega

/-- Two files of two days. -/
theorem sorted_rotatesOnce : ∃ l, (machine dayCount).Run (initial 5 fun _ => []) rotatesOnce l ∧
    l.names = [lit "log/log.20000101-000005", lit "log/log.20000102-000005"] ∧ l.Sorted := by
  obtain ⟨l, hrun, hl⟩ := Machine.Run.of_replay_map (machine dayCount) (initial 5 fun _ => [])
    rotatesOnce (fun l => decide
      (l.names = [lit "log/log.20000101-000005", lit "log/log.20000102-000005"])) (by decide +kernel)
  exact ⟨l, hrun, of_decide_eq_true hl,
    sorted_of_run calendar_dayCount hrun (by decide) (by decide +kernel)⟩

/-! ## Sizes -/

instance (l : LogFile) (now : ℤ) : Decidable (l.Lasts now) :=
  decidable_of_iff ((l.fds l.fd_).any fun name =>
      now - l.lastRotate_ < l.rotateInterval_ ∧ (l.files name).length < Logger.FILE_SIZE)
    (by simp [Lasts, Option.any_eq_true])

/-- Batches have at most `n` bytes, no file is opened that has reached its size, as when files are
changed twice in a second, and the backend does not pass `tryRotate` while `switchToFileLog` is
between its assignments. -/
def Rotates (localtime_r : ℤ → Tm) (n : ℕ) (l : LogFile) : Action → Prop
  | .logger .swap => l.logger.msg_.length ≤ n
  | .check now _ => l.switching ≠ .set ∧ (l.isfilelog_ = true → l.Lasts now ∨
      (l.files (({ l with lastRotate_ := now } : LogFile).openedName localtime_r)).length <
        Logger.FILE_SIZE)
  | .switch _ => (l.files (l.openedName localtime_r)).length < Logger.FILE_SIZE
  | _ => True

instance (localtime_r : ℤ → Tm) (n : ℕ) (l : LogFile) : ∀ a, Decidable (l.Rotates localtime_r n a)
  | .logger .swap => inferInstanceAs (Decidable (_ ≤ _))
  | .check now _ => inferInstanceAs (Decidable (_ ≠ _ ∧ (_ = _ → l.Lasts now ∨ _ < _)))
  | .switch _ => inferInstanceAs (Decidable (_ < _))
  | .logger (.append ..) | .logger .test | .logger .wait | .logger (.write _) | .logger .endWrite
  | .logger .destroy | .logger .stop | .logger .join | .setfd | .setfilelog | .setFileBaseName _
  | .setRotateInterval _ => isTrue trivial

/-- No file has grown beyond the size by more than `n` bytes. -/
def Bounded (files : Bytes → Bytes) (n : ℕ) (l : LogFile) : Prop :=
  ∀ name, l.files name = files name ∨ (l.files name).length < Logger.FILE_SIZE + n

/-- What is written and what the backend holds fit together into the present file. -/
structure Fits (files : Bytes → Bytes) (n : ℕ) (l : LogFile) : Prop where
  tidy : l.Tidy
  bounded : l.Bounded files n
  present : ∀ name, l.fds l.fd_ = some name →
    (l.files name).length + l.logger.backend.left.length < Logger.FILE_SIZE + n
  ready : ∀ name, l.fds l.fd_ = some name → l.logger.backend = .waiting → l.checking = false →
    (l.files name).length < Logger.FILE_SIZE
  opened : ∀ fd name, l.switching = .opened fd → l.fds fd = some name →
    (l.files name).length < Logger.FILE_SIZE
  left : l.logger.backend.left.length ≤ n
  installed : l.fd_ ≠ 1 → l.isfilelog_ = true ∨ l.switching = .set

section
variable {n : ℕ} {files : Bytes → Bytes}

/-- Nothing is written where there is nothing to write. -/
lemma put_nil (l : LogFile) : l.put [] = l := by
  obtain ⟨logger, dir, base, interval, rotate, fd, file, checking, switching, fds, files, past,
    ⟨name, bytes⟩⟩ := l
  simp only [LogFile.put, List.append_nil]
  split
  · rfl
  · rw [Function.update_eq_self]

/-- The backend goes on without writing. -/
lemma Fits.advance (h : l.Fits files n) {logger : Logger} {checking : Bool}
    (htidy : Tidy { l with logger := logger, checking := checking })
    (hleft : logger.backend.left.length ≤ l.logger.backend.left.length)
    (hready : logger.backend = .waiting → checking = false →
      l.logger.backend = .waiting ∧ l.checking = false) :
    Fits files n { l with logger := logger, checking := checking } where
  tidy := htidy
  bounded := h.bounded
  present := fun name hname => by
    have := h.present name hname
    show (l.files name).length + logger.backend.left.length < _
    omega
  ready := fun name hname hwaiting hchecking =>
    h.ready name hname (hready hwaiting hchecking).1 (hready hwaiting hchecking).2
  opened := h.opened
  left := hleft.trans h.left
  installed := h.installed

/-- What is written comes from what the backend holds. -/
lemma Fits.put (h : l.Fits files n) {logger : Logger} {bytes : Bytes}
    (htidy : Tidy { l.put bytes with logger := logger })
    (hleft : bytes.length + logger.backend.left.length = l.logger.backend.left.length)
    (hne : logger.backend ≠ .waiting) : Fits files n { l.put bytes with logger := logger } := by
  have hsame : ∀ name, l.fds l.fd_ ≠ some name → (l.put bytes).files name = l.files name := by
    intro name hname
    unfold LogFile.put
    split
    · rfl
    · rename_i name' hname'
      refine Function.update_of_ne ?_ ..
      rintro rfl
      exact hname hname'
  have hgrown : ∀ name, l.fds l.fd_ = some name →
      (l.put bytes).files name = l.files name ++ bytes := by
    intro name hname
    simp only [LogFile.put, hname, Function.update_self]
  exact
    { tidy := htidy
      bounded := by
        intro name
        by_cases hname : l.fds l.fd_ = some name
        · right
          have := h.present name hname
          show ((l.put bytes).files name).length < _
          rw [hgrown name hname, List.length_append]
          omega
        · have := h.bounded name
          rwa [← hsame name hname] at this
      present := by
        intro name hname
        have hname : l.fds l.fd_ = some name := hname
        have := h.present name hname
        show ((l.put bytes).files name).length + logger.backend.left.length < _
        rw [hgrown name hname, List.length_append]
        omega
      ready := fun name hname hwaiting => absurd hwaiting hne
      opened := by
        intro fd name hopened hname
        have hone := (h.tidy.opened fd hopened).1
        have hnone : l.fds l.fd_ ≠ some name := by
          rw [hone, h.tidy.stdout]
          simp
        show ((l.put bytes).files name).length < _
        rw [hsame name hnone]
        exact h.opened fd name hopened hname
      left := by
        have := h.left
        show logger.backend.left.length ≤ n
        omega
      installed := h.installed }

/-- The steps of the logger keep the present file within its bound. -/
lemma Fits.logger (h : l.Fits files n) {a : Logger.Action} {logger : Logger}
    (htidy : (({ l.put (l.wrote a) with logger := logger } : LogFile).follow a).Tidy)
    (hrotates : l.Rotates localtime_r n (.logger a)) (hallowed : l.allowed (.logger a))
    (hexec : l.logger.exec a = .ok logger) :
    (({ l.put (l.wrote a) with logger := logger } : LogFile).follow a).Fits files n := by
  obtain ⟨hlogger, hmore⟩ := hallowed
  have hstay : a ≠ .join → a ≠ .test → (l.put (l.wrote a) = l) →
      logger.backend = l.logger.backend →
      (({ l.put (l.wrote a) with logger := logger } : LogFile).follow a).Fits files n := by
    intro hjoin htest hput hbackend
    have hfollow : (({ l.put (l.wrote a) with logger := logger } : LogFile).follow a) =
        { l with logger := logger } := by
      rw [hput]
      cases a <;> first | rfl | exact absurd rfl hjoin | exact absurd rfl htest
    rw [hfollow] at htidy ⊢
    exact h.advance htidy (by rw [hbackend]) fun hwaiting hchecking => ⟨hbackend ▸ hwaiting, hchecking⟩
  have hempty : l.wrote a = [] → l.put (l.wrote a) = l := fun hw => by rw [hw, put_nil]
  cases a with
  | append timeNow tid msg =>
    cases hexec
    exact hstay (by simp) (by simp) (hempty rfl) rfl
  | test =>
    cases hexec
    have htop : l.logger.backend = .top := hlogger
    rw [hempty rfl] at htidy ⊢
    refine h.advance htidy ?_ fun hwaiting hchecking => ?_
    · show (Backend.left (if _ then _ else _)).length ≤ _
      split <;> exact Nat.zero_le _
    · exact absurd hwaiting (of_decide_eq_false hchecking)
  | wait =>
    cases hexec
    exact hstay (by simp) (by simp) (hempty rfl) rfl
  | swap =>
    cases hexec
    have hbatch : l.logger.msg_.length ≤ n := hrotates
    rw [hempty rfl] at htidy ⊢
    exact
      { tidy := htidy
        bounded := h.bounded
        present := by
          intro name hname
          have hsize := h.ready name hname hlogger.1 hmore
          show (l.files name).length + l.logger.msg_.length < _
          omega
        ready := fun name hname hwaiting => by cases hwaiting
        opened := h.opened
        left := hbatch
        installed := h.installed }
  | write ret =>
    cases hexec
    obtain ⟨buf, tosend, hbackend⟩ := writing_of_allowed (Or.inl ⟨ret, hlogger⟩)
    refine h.put htidy ?_ ?_
    · simp only [wrote, Logger.write, hbackend, Backend.left]
      split
      · rw [← List.length_append, List.take_append_drop]
      · rw [hbackend]
        exact Nat.zero_add _
    · simp only [Logger.write, hbackend]
      split
      · simp
      · rw [hbackend]
        simp
  | endWrite =>
    cases hexec
    rw [hempty rfl] at htidy ⊢
    refine h.advance htidy (Nat.zero_le _) fun hwaiting _ => ?_
    cases hwaiting
  | destroy =>
    cases hexec
    exact hstay (by simp) (by simp) (hempty rfl) rfl
  | stop =>
    cases hexec
    exact hstay (by simp) (by simp) (hempty rfl) rfl
  | join =>
    cases hexec
    obtain ⟨-, -, hfiles, hlogger', hfd, -, -⟩ :=
      follow_frame { l.put (l.wrote .join) with logger := { l.logger with dtor := .returned } } .join
    rw [hempty rfl] at htidy hfiles hlogger' hfd ⊢
    have hnone := htidy.closed (by rw [hlogger'])
    have hinstalled : ∀ l₁ : LogFile, (l₁.follow .join).isfilelog_ = l₁.isfilelog_ ∧
        (l₁.follow .join).switching = l₁.switching := by
      intro l₁
      unfold follow
      simp only
      split <;> exact ⟨rfl, rfl⟩
    obtain ⟨hfile, hswitching⟩ :=
      hinstalled { l with logger := { l.logger with dtor := .returned } }
    -- no file is open any more
    exact
      { tidy := htidy
        bounded := by
          rw [Bounded, hfiles]
          exact h.bounded
        present := fun name hname => absurd ((hnone _).symm.trans hname) (by simp)
        ready := fun name hname => absurd ((hnone _).symm.trans hname) (by simp)
        opened := fun fd name _ hname => absurd ((hnone fd).symm.trans hname) (by simp)
        left := by
          rw [hlogger']
          exact h.left
        installed := by
          rw [hfd, hfile, hswitching]
          exact h.installed }

/-- Every step keeps the files within their bounds. -/
lemma Fits.step (h : l.Fits files n) {a : Action} (hrotates : l.Rotates localtime_r n a)
    (hallowed : l.allowed a) (hstepped : l.Stepped localtime_r a l') : l'.Fits files n := by
  have htidy := h.tidy.step hallowed hstepped
  cases hstepped with
  | logger hexec => exact h.logger htidy hrotates hallowed hexec
  | @kept now newfd hlasts =>
    refine { h with tidy := htidy, ready := fun name hname hwaiting _ => ?_ }
    have hname : l.fds l.fd_ = some name := hname
    have hne : l.fd_ ≠ 1 := by
      intro hone
      rw [hone, h.tidy.stdout] at hname
      cases hname
    obtain ⟨name', hname', -, hsize⟩ := hlasts ((h.installed hne).resolve_right hrotates.1)
    rw [hname, Option.some.injEq] at hname'
    exact hname' ▸ hsize
  | @rotated now newfd hfile hnow hdue =>
    have hno : l.switching = .no := by
      by_contra hne
      rw [h.tidy.plain hne] at hfile
      cases hfile
    have hleft : l.logger.backend.left = [] := by
      rw [h.tidy.checks hallowed.1]
      rfl
    have hsmall : ∀ name, (l.rotated localtime_r now newfd).fds newfd = some name →
        (l.files name).length < Logger.FILE_SIZE := by
      intro name hname
      have hself : Function.update (Function.update l.fds l.fd_ none) newfd (some
          (({ l with lastRotate_ := now } : LogFile).openedName localtime_r)) newfd = some name :=
        hname
      rw [Function.update_self, Option.some.injEq] at hself
      exact hself ▸ (hrotates.2 hfile).resolve_left hdue
    exact
      { tidy := htidy
        bounded := h.bounded
        present := by
          intro name hname
          have hsize := hsmall name hname
          show (l.files name).length + l.logger.backend.left.length < _
          rw [hleft]
          exact Nat.lt_add_right n hsize
        ready := fun name hname _ _ => hsmall name hname
        opened := fun fd name hopened => absurd (hno.symm.trans hopened) (by simp)
        left := h.left
        installed := fun _ => Or.inl hfile }
  | @opened newfd hfd =>
    have hstdout : ∀ name, Function.update l.fds newfd (some (l.openedName localtime_r)) l.fd_ ≠
        some name := by
      intro name
      rw [hfd, Function.update_of_ne hallowed.2.2.1.symm, h.tidy.stdout]
      simp
    refine { h with tidy := htidy, present := ?_, ready := ?_, opened := ?_, installed := ?_ }
    · exact fun name hname => absurd hname (hstdout name)
    · exact fun name hname => absurd hname (hstdout name)
    · intro fd name hopened hname
      obtain rfl := Switching.opened.inj hopened
      have hname : Function.update l.fds newfd (some (l.openedName localtime_r)) newfd = some name :=
        hname
      rw [Function.update_self, Option.some.injEq] at hname
      exact hname ▸ hrotates
    · exact fun hne => absurd hfd hne
  | @set newfd hopened =>
    have hsmall := fun name => h.opened newfd name hopened
    exact
      { tidy := htidy
        bounded := h.bounded
        present := by
          intro name hname
          have hsize := hsmall name hname
          have hleft := h.left
          show (l.files name).length + l.logger.backend.left.length < _
          omega
        ready := fun name hname _ _ => hsmall name hname
        opened := fun fd name hset => by cases hset
        left := h.left
        installed := fun _ => Or.inr rfl }
  | filelog =>
    exact
      { tidy := htidy
        bounded := h.bounded
        present := h.present
        ready := h.ready
        opened := fun fd name hopened => by cases hopened
        left := h.left
        installed := fun _ => Or.inl rfl }
  | baseName basename => exact { h with tidy := htidy }
  | interval interval => exact { h with tidy := htidy }

variable {now : ℤ} {as : List Action}

/-- **A log file outgrows its size by no more than a batch**, in every run that opens no file beyond
its size. -/
theorem bounded_of_run (hrun : (machine localtime_r).Run (initial now files) as l) (hnow : 0 < now)
    (hrotates : (machine localtime_r).AllSteps (Rotates localtime_r n) (initial now files) as) :
    l.Bounded files n := by
  refine (hrun.invariant hrotates (I := Fits files n) ?_ ?_).bounded
  · exact
      { tidy := tidy_initial hnow
        bounded := fun _ => Or.inl rfl
        present := fun _ hname => by cases hname
        ready := fun _ hname => by cases hname
        opened := fun _ _ hopened => by cases hopened
        left := Nat.zero_le _
        installed := fun hne => absurd rfl hne }
  · exact fun l a l' h hstep hallowed hexec =>
      h.step hstep hallowed (h.tidy.stepped hallowed hexec)

end

/-- The log file of a second of the year 2000. -/
def fileOf (second : ℤ) : Bytes := Logger.newname (lit "log/") (lit "log") (dayCount second)

/-- The file of the fifth second lacks one byte, and there is no other. -/
def nearlyFull (name : Bytes) : Bytes :=
  if name = fileOf 5 then List.replicate (Logger.FILE_SIZE - 1) 97 else []

/-- A switch to a log file and a record of six bytes. -/
def fillsUp : List Action :=
  [.logger .test, .check 5 3, .switch 4, .setfd, .setfilelog, .logger (Logger.appendByte 97),
    .logger .swap, .logger (.write 6), .logger .endWrite, .logger .test]

/-- No batch is larger than six bytes, and the one file that is opened has not been written to. -/
def OpensOne (l : LogFile) : Action → Prop
  | .logger .swap => l.logger.msg_.length ≤ 6
  | .check .. => l.switching = .no ∧ l.isfilelog_ = false
  | .switch _ => l.openedName dayCount = fileOf 5 ∧ contents l.sections (fileOf 5) = []
  | _ => True

instance (l : LogFile) : ∀ a, Decidable (l.OpensOne a)
  | .logger .swap => inferInstanceAs (Decidable (_ ≤ _))
  | .check .. => inferInstanceAs (Decidable (_ ∧ _))
  | .switch _ => inferInstanceAs (Decidable (_ ∧ _))
  | .logger (.append ..) | .logger .test | .logger .wait | .logger (.write _) | .logger .endWrite
  | .logger .destroy | .logger .stop | .logger .join | .setfd | .setfilelog | .setFileBaseName _
  | .setRotateInterval _ => isTrue trivial

/-- The file that the run finds lacks one byte to its size. -/
lemma length_nearlyFull : (nearlyFull (fileOf 5)).length = Logger.FILE_SIZE - 1 := by
  rw [nearlyFull, if_pos rfl, List.length_replicate]

/-- A run that opens one file, and that one not full, meets the conditions of the theorem. -/
lemma OpensOne.rotates {l : LogFile} {a : Action} (h : l.OpensOne a) (hinv : l.Inv nearlyFull) :
    l.Rotates dayCount 6 a := by
  cases a with
  | logger a => cases a with
    | swap => exact h
    | _ => trivial
  | check now newfd =>
    obtain ⟨hswitching, hfile⟩ := h
    refine ⟨by rw [hswitching]; decide, fun hfile' => ?_⟩
    rw [hfile] at hfile'
    cases hfile'
  | switch newfd =>
    obtain ⟨hname, hcontents⟩ := h
    show (l.files (l.openedName dayCount)).length < Logger.FILE_SIZE
    rw [hname, hinv.content, hcontents, List.append_nil, length_nearlyFull]
    decide
  | _ => trivial

/-- The record makes the file outgrow its size by five bytes, and the next batch goes to another. -/
theorem bounded_overflowsOnce :
    ∃ l, (machine dayCount).Run (initial 5 nearlyFull) (fillsUp ++ [.check 6 4]) l ∧
      (l.files (fileOf 5)).length = Logger.FILE_SIZE + 5 ∧ l.current.name = some (fileOf 6) ∧
      l.Bounded nearlyFull 6 := by
  obtain ⟨l, hrun, hl⟩ := Machine.Run.of_replay_map (machine dayCount) (initial 5 nearlyFull)
    fillsUp (fun l => decide ((contents l.sections (fileOf 5)).length = 6 ∧
      contents l.sections (fileOf 6) = [] ∧ l.fds l.fd_ = some (fileOf 5) ∧ l.isfilelog_ = true ∧
      l.switching = .no ∧ l.checking = true ∧ (l.close l.fd_).Fresh 4 ∧
      ({ l with lastRotate_ := 6 } : LogFile).openedName dayCount = fileOf 6)) (by decide +kernel)
  obtain ⟨hfirst, hsecond, hfd, hfile, hswitching, hchecking, hfresh, hname⟩ := of_decide_eq_true hl
  have hinv := inv_of_run hrun (by decide) (by decide +kernel)
  have hlength : (l.files (fileOf 5)).length = Logger.FILE_SIZE + 5 := by
    rw [hinv.content, List.length_append, length_nearlyFull, hfirst]
    rfl
  -- the file is not old, but it has reached its size
  have hdue : ¬ l.Lasts 6 := by
    rintro ⟨name, hopen, -, hsize⟩
    rw [hfd, Option.some.injEq] at hopen
    subst hopen
    omega
  have hexec : exec dayCount l (.check 6 4) =
      .ok { l.rotated dayCount 6 4 with checking := false } := by
    have hnow : (0 : ℤ) < 6 := by decide
    rcases tryRotate_eq dayCount { l with checking := false } 4 hnow (fun _ => by simp [hfd]) with ⟨hlasts, -⟩ | ⟨-, -, heq⟩
    · exact absurd (hlasts hfile) hdue
    · exact heq
  have hsteps : (machine dayCount).AllSteps (Rotates dayCount 6) (initial 5 nearlyFull) fillsUp :=
    hrun.allSteps (P := fun l a => l.SmallBatches a ∧ l.OpensOne a) (by decide +kernel)
      (inv_initial (by decide))
      (fun l a l' h hP hallowed hexec => h.exec hP.1 hallowed hexec)
      fun l a h hP _ => hP.2.rotates h
  have hlast : (l.files (({ l with lastRotate_ := 6 } : LogFile).openedName dayCount)).length <
      Logger.FILE_SIZE := by
    rw [hname, hinv.content, hsecond]
    decide +kernel
  have hallowed : (machine dayCount).allowed l (.check 6 4) := ⟨hchecking, by decide, hfresh⟩
  have hrun' := hrun.append (Machine.run_singleton_iff.mpr ⟨hallowed, hexec⟩)
  refine ⟨_, hrun', hlength, congrArg some hname, bounded_of_run hrun' (by decide) ?_⟩
  exact (Machine.allSteps_append_iff hrun).mpr
    ⟨hsteps, ⟨by rw [hswitching]; decide, fun _ => Or.inr hlast⟩, fun _ _ => trivial⟩

end LogFile
end Miniduo
