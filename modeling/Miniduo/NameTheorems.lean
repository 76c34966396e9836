import Miniduo.PlacementTheorems

/-!
# The names in `connections_`

A name stands in `connections_` for the connection that bears it and has not been removed, in every
run (`names_of_run`). Whether a new connection finds its name free is another question: its number
is an `int` that wraps, so the name is that of every connection a multiple of `2 ^ 32` before it.
-/

namespace Miniduo

lemma ConnStep.removals_eq {conn conn' : TcpConnection} {e : ConnEvent}
    (h : ConnStep conn e conn') (he : e ≠ .removal) :
    conn'.log.removals = conn.log.removals := by
  cases h with
  | removal => exact absurd rfl he
  | _ => rfl

namespace TcpServer

/-- A name stands for a connection that bears it and has not been removed. -/
def Bears (s : TcpServer) : Prop :=
  ∀ name c, s.connections_ name = some c →
    c < s.created ∧ (s.conn c).name_ = name ∧ (s.conn c).log.removals = 0

/-- `newConnection` finds the name of the new connection free. -/
def FindsFree (s : TcpServer) : Action → Prop
  | .acceptorRead _ (some _) => s.connections_ (connName s.name_ s.nextConnId_) = none
  | _ => True

/-- `removeConnectionInLoop` has run for every connection that a new one shares its number with. -/
def Recycled (s : TcpServer) : Action → Prop
  | .acceptorRead _ (some _) =>
    ∀ c < s.created, 2 ^ 32 ∣ s.created - c → (s.conn c).log.removals ≠ 0
  | _ => True

/-- What `connections_` says of names, and what the connections themselves say. -/
def names (s : TcpServer) : (Bytes → Option ConnId) × ℕ × (ConnId → Bytes × ℕ) :=
  (s.connections_, s.created, fun c => ((s.conn c).name_, (s.conn c).log.removals))

section
variable {s s' : TcpServer} {i c : ℕ} {e : ConnEvent} {a : Action} {fd : ℕ}

lemma names_ext (hmap : s'.connections_ = s.connections_) (hcreated : s'.created = s.created)
    (hconn : ∀ c, (s'.conn c).name_ = (s.conn c).name_ ∧
      (s'.conn c).log.removals = (s.conn c).log.removals) : s'.names = s.names := by
  unfold names
  rw [hmap, hcreated]
  simp only [hconn]

lemma Effect.connections_eq (h : s.Effect c e s') : s'.connections_ = s.connections_ := by
  obtain ⟨conn, p, -, -, rfl⟩ := h
  rfl

lemma Effect.names_eq (h : s.Effect c e s') (he : e ≠ .removal) : s'.names = s.names := by
  refine names_ext h.connections_eq h.created_eq fun c' => ?_
  by_cases hc : c' = c
  · rw [hc]
    exact ⟨h.step.name_eq, h.step.removals_eq he⟩
  · rw [h.other hc]
    exact ⟨rfl, rfl⟩

lemma callsDown.names_eq {rest : Work} (h : s.callsDown s' i c rest) : s'.names = s.names := by
  obtain ⟨s₁, heffect, rfl⟩ := h
  exact heffect.names_eq (by simp)

lemma channelRemoved.names_eq (h : s.channelRemoved s' c) : s'.names = s.names := by
  obtain ⟨p, -, rfl⟩ := h
  have hconn : (s.touch c (s.conn c) p).conn = s.conn := Function.update_eq_self ..
  exact names_ext rfl rfl fun c' => by rw [hconn]; exact ⟨rfl, rfl⟩

/-- The action runs `removeConnectionInLoop` of the connection, or queues it. -/
def Action.Removes (a : Action) (c : ConnId) : Prop :=
  ∃ i, a = .task i (.removeConnectionInLoop c) ∨ a = .closeCallback i c

lemma Worked.names_cases {w : Work} (h : s.Worked i w a s') :
    s'.names = s.names ∨ ∃ c, a.Removes c ∧ s.removed s' c := by
  cases h with
  | nothing _ _ _ => exact Or.inl rfl
  | established heffect => exact Or.inl (heffect.names_eq (by simp))
  | destroyedDown hdown => exact Or.inl hdown.names_eq
  | destroyed hgone => exact Or.inl hgone.names_eq
  | removedTask hremoved => exact Or.inr ⟨_, ⟨i, Or.inl rfl⟩, hremoved⟩
  | removedHere hremoved => exact Or.inr ⟨_, ⟨i, Or.inr rfl⟩, hremoved⟩
  | removedQueued c => exact Or.inl rfl
  | channelRemoved hgone => exact Or.inl hgone.names_eq
  | writeComplete c => exact Or.inl rfl
  | accepted haccept => exact Or.inl (haccept.names_eq (by simp))
  | shutdown hshutdown => exact Or.inl (hshutdown.names_eq (by simp))
  | closed hdown => exact Or.inl hdown.names_eq
  | again c => exact Or.inl rfl
  | peerClosed hdown => exact Or.inl hdown.names_eq
  | read hread => exact Or.inl (hread.names_eq (by simp))
  | written hwrite => exact Or.inl (hwrite.names_eq (by simp))
  | writtenAll hwrite => exact Or.inl (hwrite.names_eq (by simp))
  | userTask => exact Or.inl rfl
  | userHandler => exact Or.inl rfl

lemma Called.names_eq {t : Thread} (h : s.Called t c a s') : s'.names = s.names := by
  cases h with
  | sendQueued _ _ hsend => exact hsend.names_eq (by simp)
  | sendIgnored _ hsend => exact hsend.names_eq (by simp)
  | sendAccepted _ hsend haccept =>
    exact (haccept.names_eq (by simp)).trans (hsend.names_eq (by simp))
  | shutdownRun hin hshutdown => exact hshutdown.names_eq (by simp)
  | _ => rfl

/-- **The names change** when a connection is removed or made, and in no other step. -/
lemma Outcome.names_cases (h : s.Outcome a s') :
    s'.names = s.names ∨ (∃ i c, a.Removes c ∧ (s.pop i).removed s' c) ∨
      ∃ i fd, a = .acceptorRead i (some fd) ∧ s'.names = (s.withConnection fd).names := by
  cases h with
  | @work i w a s' hnext hworked =>
    rcases hworked.names_cases with hsame | ⟨c, hremoves, hremoved⟩
    · exact Or.inl hsame
    · exact Or.inr (Or.inl ⟨i, c, hremoves, hremoved⟩)
  | acceptQueued hnext => exact Or.inr (Or.inr ⟨_, _, rfl, rfl⟩)
  | acceptHere hnext hin heffect => exact Or.inr (Or.inr ⟨_, _, rfl, heffect.names_eq (by simp)⟩)
  | call hholds hcalled => exact Or.inl hcalled.names_eq
  | retrieve hretrieve => exact Or.inl (hretrieve.names_eq (by simp))
  | _ => exact Or.inl rfl

/-! ## What names stand for -/

lemma Bears.congr (h : s.Bears) (hnames : s'.names = s.names) : s'.Bears := by
  obtain ⟨hmap, hrest⟩ := Prod.mk.inj hnames
  obtain ⟨hcreated, hconn⟩ := Prod.mk.inj hrest
  intro name c hname
  obtain ⟨hc, hbears⟩ := h name c (hmap ▸ hname)
  obtain ⟨hname', hremovals⟩ := Prod.mk.inj (congrFun hconn c)
  exact ⟨hcreated ▸ hc, hname'.trans hbears.1, hremovals.trans hbears.2⟩

lemma Bears.withConnection (h : s.Bears) (fd : ℕ) : (s.withConnection fd).Bears := by
  intro name c hmap
  have hmap : Function.update s.connections_ (connName s.name_ s.nextConnId_) (some s.created)
      name = some c := hmap
  show c < s.created + 1 ∧ (Function.update s.conn s.created (s.opened fd) c).name_ = name ∧
    (Function.update s.conn s.created (s.opened fd) c).log.removals = 0
  by_cases hname : name = connName s.name_ s.nextConnId_
  · rw [hname, Function.update_self, Option.some.injEq] at hmap
    rw [← hmap, hname, Function.update_self]
    exact ⟨Nat.lt_succ_self _, rfl, rfl⟩
  · rw [Function.update_of_ne hname] at hmap
    obtain ⟨hc, hbears⟩ := h name c hmap
    rw [Function.update_of_ne (Nat.ne_of_lt hc)]
    exact ⟨Nat.lt_succ_of_lt hc, hbears⟩

/-- A connection that is removed gives up its name. -/
lemma Bears.removed (h : s.Bears) (hremoved : s.removed s' c) : s'.Bears := by
  obtain ⟨s₁, heffect, -, rfl⟩ := hremoved
  intro name c' hmap
  have hmap : Function.update s₁.connections_ (s.conn c).name_ none name = some c' := hmap
  show c' < s₁.created ∧ (s₁.conn c').name_ = name ∧ (s₁.conn c').log.removals = 0
  by_cases hname : name = (s.conn c).name_
  · rw [hname, Function.update_self] at hmap
    cases hmap
  · rw [Function.update_of_ne hname, heffect.connections_eq] at hmap
    have hbears := h name c' hmap
    have hne : c' ≠ c := by
      rintro rfl
      exact hname hbears.2.1.symm
    rw [heffect.created_eq, heffect.other hne]
    exact hbears

lemma Bears.outcome (h : s.Bears) (houtcome : s.Outcome a s') : s'.Bears := by
  rcases houtcome.names_cases with hsame | ⟨i, c, -, hremoved⟩ | ⟨i, fd, -, hsame⟩
  · exact h.congr hsame
  · exact Bears.removed (s := s.pop i) h hremoved
  · exact (h.withConnection fd).congr hsame

lemma bears_initial (size_ : ℕ) (name_ : Bytes) (callback : Bool) :
    (initial size_ name_ callback).Bears := by
  intro name c hmap
  cases hmap

lemma names_step (h : s.Numbered ∧ s.Bears) (hallowed : machine.allowed s a)
    (hexec : machine.exec s a = .ok s') : s'.Numbered ∧ s'.Bears := by
  have houtcome := exec_outcome hallowed hexec
  exact ⟨h.1.outcome houtcome, h.2.outcome houtcome⟩

lemma names_initial (size_ : ℕ) (name_ : Bytes) (callback : Bool) :
    (initial size_ name_ callback).Numbered ∧ (initial size_ name_ callback).Bears :=
  ⟨numbered_initial _ _ _, bears_initial _ _ _⟩

/-- **Every name stands for the connection that bears it**, in every run. -/
theorem names_of_run {size_ : ℕ} {name_ : Bytes} {callback : Bool} {as : List Action}
    (hrun : machine.Run (initial size_ name_ callback) as s) : s.Numbered ∧ s.Bears :=
  hrun.preserves (I := fun s => s.Numbered ∧ s.Bears) (names_initial _ _ _)
    fun _ _ _ h => names_step h

/-! ## Whether the next name is free -/

/-- Two connections share their number if one was accepted a multiple of `2 ^ 32` before the
other. -/
lemma toInt_succ_eq_iff {m n : ℕ} (h : m ≤ n) :
    toInt (m + 1) = toInt (n + 1) ↔ 2 ^ 32 ∣ n - m := by
  unfold toInt
  omega

lemma Numbered.shares_iff (h : s.Numbered) (hc : c < s.created) :
    (s.conn c).name_ = connName s.name_ s.nextConnId_ ↔ 2 ^ 32 ∣ s.created - c := by
  rw [h.names c hc, h.next, ← toInt_succ_eq_iff (Nat.le_of_lt hc)]
  constructor
  · exact fun heq => connName_injective heq
  · exact fun heq => by rw [heq]

lemma Recycled.findsFree (h : s.Recycled a) (hnumbered : s.Numbered) (hbears : s.Bears) :
    s.FindsFree a := by
  unfold FindsFree
  split
  · cases hmap : s.connections_ (connName s.name_ s.nextConnId_) with
    | none => rfl
    | some c =>
      obtain ⟨hc, hname, hremovals⟩ := hbears _ c hmap
      exact absurd hremovals (h c hc ((hnumbered.shares_iff hc).mp hname))
  · trivial

/-- Among few connections no two share their number. -/
lemma Few.recycled (h : s.Few a) : s.Recycled a := by
  unfold Few at h
  unfold Recycled
  split
  · intro c hc hdvd
    have hle := Nat.le_of_dvd (by omega) hdvd
    simp only at h
    omega
  · trivial

/-- Connections that take over their numbers find their names free. -/
lemma findsFree_steps {P : TcpServer → Action → Prop} {size_ : ℕ} {name_ : Bytes}
    {callback : Bool} {as : List Action} (hrun : machine.Run (initial size_ name_ callback) as s)
    (hsteps : machine.AllSteps P (initial size_ name_ callback) as)
    (hrecycled : ∀ s a, P s a → s.Recycled a) :
    machine.AllSteps FindsFree (initial size_ name_ callback) as := by
  refine hrun.allSteps (I := fun s => s.Numbered ∧ s.Bears) hsteps (names_initial _ _ _)
    (fun _ _ _ h _ => names_step h) ?_
  exact fun s a ⟨hnumbered, hbears⟩ hP _ => (hrecycled s a hP).findsFree hnumbered hbears

end

end TcpServer
end Miniduo
