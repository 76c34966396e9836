import Mathlib.Data.Int.CardIntervalMod
import Miniduo.TcpServerTheorems

/-!
# How connections are dealt out to the loops

`allocLoop` goes round the sub-loops. Whatever else happens between two accepts, the connections of
a run are dealt out in turn: no sub-loop is ever given two more than another, and as many
connections in a row as there are sub-loops go to different ones.
-/

namespace Miniduo
namespace TcpServer

/-- The loop that the connection with a number is given in its turn. -/
def dealt (size_ c : ℕ) : ℕ := if size_ = 0 then 0 else c % size_ + 1

/-- The connections that a loop has been given. -/
def assigned (s : TcpServer) (i : ℕ) : ℕ := s.created.count fun c => (s.conn c).loop_ = i

/-- The loops have been given their connections in turn. -/
structure Balanced (s : TcpServer) : Prop where
  /-- Without sub-loops the acceptor's loop is given all, and with them it is given none. -/
  acceptor : s.assigned 0 = if s.size_ = 0 then s.created else 0
  share : ∀ i < s.size_,
    s.assigned (i + 1) = s.created / s.size_ + if i < s.created % s.size_ then 1 else 0
  fair : ∀ i < s.size_, ∀ j < s.size_, s.assigned (i + 1) ≤ s.assigned (j + 1) + 1
  apart : ∀ c c', c < c' → c' < s.created → c' < c + s.size_ → (s.conn c).loop_ ≠ (s.conn c').loop_

/-! ## What `allocLoop` reads -/

/-- The number of sub-loops, whose turn it is, and the number of connections. -/
def turns (s : TcpServer) : ℕ × ℕ × ℕ := (s.size_, s.next_, s.created)

section
variable {s s' : TcpServer} {i c : ℕ}

/-- An event of a connection takes no turn. -/
lemma Effect.turns_eq {e : ConnEvent} (h : s.Effect c e s') : s'.turns = s.turns := by
  obtain ⟨conn, p, -, -, hs'⟩ := h
  rw [hs']
  rfl

lemma callsDown.turns_eq {rest : Work} (h : s.callsDown s' i c rest) : s'.turns = s.turns := by
  obtain ⟨s₁, heffect, hs'⟩ := h
  rw [hs']
  exact heffect.turns_eq

lemma channelRemoved.turns_eq (h : s.channelRemoved s' c) : s'.turns = s.turns := by
  obtain ⟨p, -, hs'⟩ := h
  rw [hs']
  rfl

lemma removed.turns_eq (h : s.removed s' c) : s'.turns = s.turns := by
  obtain ⟨s₁, heffect, -, hs'⟩ := h
  rw [hs']
  exact heffect.turns_eq

/-- The work of a loop takes no turn, unless it accepts. -/
lemma Worked.turns_eq {w : Work} {a : Action} (h : s.Worked i w a s') : s'.turns = s.turns := by
  cases h with
  | established heffect => exact heffect.turns_eq
  | destroyedDown hdown => exact hdown.turns_eq
  | destroyed hgone => exact hgone.turns_eq
  | removedTask hremoved => exact hremoved.turns_eq
  | removedHere hremoved => exact hremoved.turns_eq
  | channelRemoved hgone => exact hgone.turns_eq
  | accepted haccept => exact haccept.turns_eq
  | shutdown hshutdown => exact hshutdown.turns_eq
  | closed hdown => exact hdown.turns_eq
  | peerClosed hdown => exact hdown.turns_eq
  | read hread => exact hread.turns_eq
  | written hwrite => exact hwrite.turns_eq
  | writtenAll hwrite => exact hwrite.turns_eq
  | _ => rfl

lemma Called.turns_eq {t : Thread} {a : Action} (h : s.Called t c a s') : s'.turns = s.turns := by
  cases h with
  | sendQueued _ _ hsend => exact hsend.turns_eq
  | sendIgnored _ hsend => exact hsend.turns_eq
  | sendAccepted _ hsend haccept => exact haccept.turns_eq.trans hsend.turns_eq
  | shutdownRun _ hshutdown => exact hshutdown.turns_eq
  | _ => rfl

/-- Only a new connection takes a turn. -/
lemma Outcome.turns_cases {a : Action} (h : s.Outcome a s') :
    s'.turns = s.turns ∨ ∃ fd, s'.turns = (s.withConnection fd).turns := by
  cases h with
  | work _ hworked => exact Or.inl hworked.turns_eq
  | @acceptQueued i fd _ => exact Or.inr ⟨fd, rfl⟩
  | @acceptHere i fd _ _ _ heffect => exact Or.inr ⟨fd, heffect.turns_eq⟩
  | call _ hcalled => exact Or.inl hcalled.turns_eq
  | retrieve hretrieve => exact Or.inl hretrieve.turns_eq
  | _ => exact Or.inl rfl

/-! ## The turns of a run -/

/-- The next turn and all earlier ones. -/
structure Dealt (s : TcpServer) : Prop where
  next : s.size_ ≠ 0 → s.next_ = s.created % s.size_
  loops : ∀ c < s.created, (s.conn c).loop_ = dealt s.size_ c

/-- The turn that `allocLoop` gives out is that of the next connection. -/
lemma Dealt.nextLoop_eq (h : s.Dealt) : s.nextLoop = dealt s.size_ s.created := by
  unfold nextLoop dealt
  split
  · rfl
  · rw [h.next ‹_›]

/-- Its loop is what a connection is made with. -/
lemma loop_eq_of_steps {P : TcpConnection → ConnEvent → Prop} {conn conn' : TcpConnection}
    (h : ConnSteps P conn conn') : conn'.loop_ = conn.loop_ :=
  h.invariant (Q := fun conn' => conn'.loop_ = conn.loop_) rfl
    fun _ _ _ heq _ hstep => hstep.loop_eq.trans heq

/-- Every action keeps the turns: it takes none, or the next one for a new connection. -/
lemma Dealt.outcome {a : Action} (h : s.Dealt) (houtcome : s.Outcome a s') : s'.Dealt := by
  -- the turn of a connection that is made in the step is the one that was next
  have hloops : s'.size_ = s.size_ → s'.created ≤ s.created + 1 →
      ∀ c < s'.created, (s'.conn c).loop_ = dealt s'.size_ c := by
    intro hsize hle c hc
    rw [hsize]
    by_cases hold : c < s.created
    · exact (loop_eq_of_steps (houtcome.conn_steps hold)).trans (h.loops c hold)
    · obtain ⟨fd, hsteps⟩ := houtcome.new_steps hold hc
      have hnew : c = s.created := by omega
      rw [loop_eq_of_steps hsteps, hnew]
      exact h.nextLoop_eq
  rcases houtcome.turns_cases with hturns | ⟨fd, hturns⟩ <;>
    simp only [turns, Prod.mk.injEq] at hturns <;> obtain ⟨hsize, hnext, hcreated⟩ := hturns
  -- no connection is made
  · refine ⟨?_, hloops hsize (by omega)⟩
    rw [hsize, hnext, hcreated]
    exact h.next
  -- one is, and `next_` goes on by one
  · have hsize : s'.size_ = s.size_ := hsize
    have hcreated : s'.created = s.created + 1 := hcreated
    refine ⟨fun hne => ?_, hloops hsize (by omega)⟩
    rw [hsize] at hne
    have hnext : s'.next_ = (s.next_ + 1) % s.size_ := by
      rw [hnext, withConnection]
      exact if_neg hne
    rw [hnext, hsize, hcreated, h.next hne, Nat.mod_add_mod]

/-! ## Counting -/

/-- A sub-loop has the connections whose numbers leave its own as remainder. -/
lemma dealt_eq_succ_iff {size_ i : ℕ} (hi : i < size_) (c : ℕ) :
    dealt size_ c = i + 1 ↔ c ≡ i [MOD size_] := by
  unfold dealt Nat.ModEq
  rw [if_neg (by omega), Nat.add_right_cancel_iff, Nat.mod_eq_of_lt hi]

/-- The connections of a loop are counted by their turns. -/
lemma Dealt.assigned_eq (h : s.Dealt) (i : ℕ) :
    s.assigned i = s.created.count fun c => dealt s.size_ c = i := by
  unfold assigned
  rw [Nat.count_eq_card_filter_range, Nat.count_eq_card_filter_range]
  refine congrArg Finset.card (Finset.filter_congr fun c hc => ?_)
  rw [h.loops c (Finset.mem_range.mp hc)]

/-- The share of a sub-loop: the numbers below `created` with its remainder. -/
lemma Dealt.assigned_succ (h : s.Dealt) (hi : i < s.size_) :
    s.assigned (i + 1) = s.created / s.size_ + if i < s.created % s.size_ then 1 else 0 := by
  have hcount := Nat.count_modEq_card s.created (Nat.zero_lt_of_lt hi) i
  rw [Nat.mod_eq_of_lt hi] at hcount
  rw [h.assigned_eq, ← hcount]
  simp only [dealt_eq_succ_iff hi]

/-- Connections that are dealt out in turn are balanced. -/
lemma Dealt.balanced (h : s.Dealt) : s.Balanced where
  acceptor := by
    rw [h.assigned_eq]
    by_cases hsize : s.size_ = 0
    · simp [dealt, hsize, Nat.count_true]
    · simp [dealt, hsize, Nat.count_false]
  share i hi := h.assigned_succ hi
  fair i hi j hj := by
    rw [h.assigned_succ hi, h.assigned_succ hj]
    split <;> split <;> omega
  apart c c' hlt hc' hnear := by
    intro heq
    have hsize : s.size_ ≠ 0 := by omega
    rw [h.loops c (hlt.trans hc'), h.loops c' hc', dealt, dealt, if_neg hsize, if_neg hsize,
      Nat.add_right_cancel_iff] at heq
    -- two numbers with one remainder are a multiple apart
    have hdvd : s.size_ ∣ c' - c := (Nat.modEq_iff_dvd' hlt.le).mp heq
    have hle := Nat.le_of_dvd (by omega) hdvd
    omega

/-- The number of sub-loops does not change. -/
lemma Outcome.size_eq {a : Action} (h : s.Outcome a s') : s'.size_ = s.size_ := by
  rcases h.turns_cases with hturns | ⟨fd, hturns⟩ <;> exact congrArg Prod.fst hturns

/-- **Connections are dealt out in turn** to the loops that the server was made for, in every run: the
server has them to itself, and nothing else calls `allocLoop`. -/
theorem balanced_of_run {size_ : ℕ} {name_ : Bytes} {callback : Bool} {as : List Action}
    (hrun : machine.Run (initial size_ name_ callback) as s) : s.size_ = size_ ∧ s.Balanced := by
  have hdealt : s.size_ = size_ ∧ s.Dealt := by
    refine hrun.preserves (I := fun s => s.size_ = size_ ∧ s.Dealt) ?_ ?_
    · exact ⟨rfl, fun _ => (Nat.zero_mod size_).symm, fun c hc => absurd hc (Nat.not_lt_zero c)⟩
    · intro s a s' ⟨hsize, hdealt⟩ hallowed hexec
      have houtcome := exec_outcome hallowed hexec
      exact ⟨houtcome.size_eq.trans hsize, hdealt.outcome houtcome⟩
  exact ⟨hdealt.1, hdealt.2.balanced⟩

end

/-- Three connections for two sub-loops that have not been started. -/
def acceptThree : List Action :=
  [.start 0, .swap 0, .endTasks 0, .poll 0 [.acceptor], .acceptorRead 0 (some 7),
    .acceptorRead 0 (some 8), .acceptorRead 0 (some 9), .acceptorRead 0 none]

theorem balanced_acceptThree : ∃ s, machine.Run (initial 2 [] false) acceptThree s ∧
    s.created = 3 ∧ s.size_ = 2 ∧ s.Balanced := by
  obtain ⟨s, hrun, hs⟩ := Machine.Run.of_replay_map machine (initial 2 [] false) acceptThree
    (fun s => decide (s.created = 3)) (by decide +kernel)
  exact ⟨s, hrun, of_decide_eq_true hs, balanced_of_run hrun⟩

end TcpServer
end Miniduo
