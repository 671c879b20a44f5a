import Mathlib.Data.List.Basic

/-!
# A duplex stream with a bounded buffer in each direction

Two parties run scripts of `write_all`, `close` and `read_to_end` over the two ends. The
stream is that of `tokio::io::duplex` as it is documented: what one end writes the other
reads in order, a write into a full buffer waits for the reader, a dropped end breaks the
pipe for the writer, and a read finds the end only when all that was written has been
drained. A call that moves several elements at once is that many steps.

Parties that hear the other out before they return never disturb each other:
`Commuting.run_completes` says that all schedules of two such scripts end alike, if one ends at all.
`exchange` is a request and its reply, at any capacity.
-/
namespace Lib.Duplex

/-! ## Schedules -/

section

variable {σ ι : Type} {step : σ → ι → Option σ} {P : σ → Prop} {s t u : σ}

/-- The agents of a schedule take their steps one after the other. -/
def runSchedule (step : σ → ι → Option σ) (s : σ) (schedule : List ι) : Option σ :=
  schedule.foldlM step s

def Ended (step : σ → ι → Option σ) (s : σ) : Prop := ∀ i, step s i = none

/-- Where two agents can go on, either order of the two steps leads to one state. -/
structure Commuting (step : σ → ι → Option σ) (P : σ → Prop) : Prop where
  keeps : ∀ s i t, P s → step s i = some t → P t
  comm : ∀ s i j a b, P s → i ≠ j → step s i = some a → step s j = some b →
    ∃ c, step a j = some c ∧ step b i = some c

/-- The agents are polled one after the other; one that has to wait does nothing. -/
def polls (step : σ → ι → Option σ) (s : σ) (schedule : List ι) : σ :=
  schedule.foldl (fun s i => (step s i).getD s) s

theorem polls_cons (i : ι) (is : List ι) :
    polls step s (i :: is) = polls step ((step s i).getD s) is := rfl

theorem polls_append (is js : List ι) :
    polls step s (is ++ js) = polls step (polls step s is) js := List.foldl_append

theorem runSchedule_cons {i : ι} {is : List ι} :
    runSchedule step s (i :: is) = some t ↔ ∃ u, step s i = some u ∧ runSchedule step u is = some t := by
  rw [runSchedule, List.foldlM_cons, Option.bind_eq_bind, Option.bind_eq_some_iff]
  rfl

theorem runSchedule_nil : runSchedule step s [] = some t ↔ s = t := by
  rw [runSchedule, List.foldlM_nil]
  exact Option.some_inj

theorem runSchedule_append {is js : List ι} :
    runSchedule step s (is ++ js) = some t ↔
      ∃ u, runSchedule step s is = some u ∧ runSchedule step u js = some t := by
  rw [runSchedule, List.foldlM_append, Option.bind_eq_bind, Option.bind_eq_some_iff]
  rfl

theorem Commuting.runSchedule_keeps (h : Commuting step P) {is : List ι} (hs : P s)
    (hrun : runSchedule step s is = some t) : P t := by
  induction is generalizing s with
  | nil => exact runSchedule_nil.mp hrun ▸ hs
  | cons i is ih =>
    obtain ⟨u, hu, hrun⟩ := runSchedule_cons.mp hrun
    exact ih (h.keeps s i u hs hu) hrun

/-- Any first step can be made up for: the end is reached with one step less. -/
theorem Commuting.exists_shorter (h : Commuting step P) [DecidableEq ι] {is : List ι} {j : ι}
    (hs : P s) (hrun : runSchedule step s is = some t) (hend : Ended step t) (hj : step s j = some u) :
    ∃ js, runSchedule step u js = some t ∧ js.length + 1 = is.length := by
  induction is generalizing s u with
  | nil =>
    rw [runSchedule_nil.mp hrun, hend j] at hj
    cases hj
  | cons i is ih =>
    obtain ⟨v, hv, hrun⟩ := runSchedule_cons.mp hrun
    by_cases hij : i = j
    · rw [hij, hj] at hv
      rw [← Option.some.inj hv] at hrun
      exact ⟨is, hrun, rfl⟩
    · obtain ⟨w, hvw, huw⟩ := h.comm s i j v u hs hij hv hj
      obtain ⟨js, hjs, hlength⟩ := ih (h.keeps s i v hs hv) hrun hvw
      exact ⟨i :: js, runSchedule_cons.mpr ⟨w, huw, hjs⟩, by rw [List.length_cons, List.length_cons, hlength]⟩

/-- **One schedule that ends speaks for all.** Whatever the agents have done, the rest of
their steps leads to the same end, and every way there has the same length. -/
theorem Commuting.run_completes (h : Commuting step P) [DecidableEq ι] {is js : List ι} (hs : P s)
    (hrun : runSchedule step s is = some t) (hend : Ended step t)
    (hother : runSchedule step s js = some u) :
    ∃ rest, runSchedule step u rest = some t ∧ js.length + rest.length = is.length := by
  induction js generalizing s is with
  | nil => exact ⟨is, runSchedule_nil.mp hother ▸ hrun, Nat.zero_add _⟩
  | cons j js ih =>
    obtain ⟨v, hv, hother⟩ := runSchedule_cons.mp hother
    obtain ⟨ks, hks, hlength⟩ := h.exists_shorter hs hrun hend hv
    obtain ⟨rest, hrest, hsum⟩ := ih (h.keeps s j v hs hv) hks hother
    refine ⟨rest, hrest, ?_⟩
    rw [List.length_cons]
    omega

/-- What the polls of a schedule have done is a run. -/
theorem exists_run_of_polls (step : σ → ι → Option σ) (s : σ) (schedule : List ι) :
    ∃ is, runSchedule step s is = some (polls step s schedule) := by
  induction schedule generalizing s with
  | nil => exact ⟨[], rfl⟩
  | cons i schedule ih =>
    obtain ⟨is, his⟩ := ih ((step s i).getD s)
    cases hstep : step s i with
    | none =>
      rw [hstep] at his
      exact ⟨is, by rw [polls_cons, hstep]; exact his⟩
    | some t =>
      rw [hstep] at his
      exact ⟨i :: is, runSchedule_cons.mpr ⟨t, hstep, by rw [polls_cons, hstep]; exact his⟩⟩

/-- A poll of an agent that can go on is a step at least. -/
theorem exists_run_of_mem {schedule : List ι} {i : ι} (hmem : i ∈ schedule) (hstep : step s i = some t) :
    ∃ is, is ≠ [] ∧ runSchedule step s is = some (polls step s schedule) := by
  induction schedule with
  | nil => cases hmem
  | cons j schedule ih =>
    cases hj : step s j with
    | none =>
      rw [polls_cons, hj]
      refine ih ((List.mem_cons.mp hmem).resolve_left ?_)
      intro hij
      rw [hij, hj] at hstep
      cases hstep
    | some u =>
      rw [polls_cons, hj]
      obtain ⟨is, his⟩ := exists_run_of_polls step u schedule
      exact ⟨j :: is, List.cons_ne_nil j is, runSchedule_cons.mpr ⟨u, hj, his⟩⟩

theorem polls_of_ended (h : Ended step s) (schedule : List ι) : polls step s schedule = s := by
  induction schedule with
  | nil => rfl
  | cons i schedule ih =>
    rw [polls_cons, h i]
    exact ih

/-- **Fair rounds reach the end.** -/
theorem Commuting.polls_completes (h : Commuting step P) [DecidableEq ι] {is : List ι} (hs : P s)
    (hrun : runSchedule step s is = some t) (hend : Ended step t) {rounds : List (List ι)}
    (hfair : ∀ round ∈ rounds, ∀ i, i ∈ round) (hlength : is.length ≤ rounds.length) :
    polls step s rounds.flatten = t := by
  induction rounds generalizing s is with
  | nil =>
    rw [List.eq_nil_of_length_eq_zero (Nat.le_zero.mp hlength)] at hrun
    exact runSchedule_nil.mp hrun
  | cons round rounds ih =>
    rw [List.forall_mem_cons] at hfair
    rw [List.flatten_cons, polls_append]
    cases is with
    | nil =>
      obtain rfl := runSchedule_nil.mp hrun
      rw [polls_of_ended hend, polls_of_ended hend]
    | cons i is =>
      obtain ⟨u, hu, -⟩ := runSchedule_cons.mp hrun
      obtain ⟨js, hne, hjs⟩ := exists_run_of_mem (hfair.1 i) hu
      obtain ⟨rest, hrest, hsum⟩ := h.run_completes hs hrun hend hjs
      refine ih (h.runSchedule_keeps hs hjs) hrest hfair.2 ?_
      have hpos := List.length_pos_iff.mpr hne
      rw [List.length_cons] at hsum hlength
      rw [List.length_cons] at hlength
      omega

end

/-! ## One direction -/

/-- Either end closes it: the writer when it has written, or whoever is dropped. -/
structure Pipe (α : Type) (cap : ℕ) where
  buffer : List α
  closed : Bool
  fits : buffer.length ≤ cap

/-- What a step of the writer does. -/
inductive WriteOp (α : Type) where
  | keep
  | push (a : α)
  | close

/-- What a step of the reader does. -/
inductive ReadOp where
  | keep
  | pop
  | close

namespace Pipe

variable {α : Type} {cap : ℕ}

@[ext] theorem ext {p q : Pipe α cap} (hbuffer : p.buffer = q.buffer) (hclosed : p.closed = q.closed) :
    p = q := by
  cases p
  cases q
  cases hbuffer
  cases hclosed
  rfl

def empty : Pipe α cap := ⟨[], false, Nat.zero_le cap⟩

def HasSpace (p : Pipe α cap) : Prop := p.buffer.length < cap

instance (p : Pipe α cap) : Decidable p.HasSpace := inferInstanceAs (Decidable (_ < _))

/-- A full buffer takes nothing. -/
def push (p : Pipe α cap) (a : α) : Pipe α cap :=
  if h : p.HasSpace then ⟨p.buffer ++ [a], p.closed, by rw [List.length_append]; exact h⟩ else p

def pop (p : Pipe α cap) : Pipe α cap :=
  ⟨p.buffer.tail, p.closed, by rw [List.length_tail]; exact Nat.le_trans (Nat.sub_le _ _) p.fits⟩

def close (p : Pipe α cap) : Pipe α cap := { p with closed := true }

def write (p : Pipe α cap) : WriteOp α → Pipe α cap
  | .keep => p
  | .push a => p.push a
  | .close => p.close

def read (p : Pipe α cap) : ReadOp → Pipe α cap
  | .keep => p
  | .pop => p.pop
  | .close => p.close

variable {p : Pipe α cap}

theorem push_buffer (h : p.HasSpace) (a : α) : (p.push a).buffer = p.buffer ++ [a] := by
  rw [push, dif_pos h]

@[simp] theorem push_closed (p : Pipe α cap) (a : α) : (p.push a).closed = p.closed := by
  unfold push
  split <;> rfl

@[simp] theorem pop_buffer (p : Pipe α cap) : p.pop.buffer = p.buffer.tail := rfl

@[simp] theorem pop_closed (p : Pipe α cap) : p.pop.closed = p.closed := rfl

@[simp] theorem close_buffer (p : Pipe α cap) : p.close.buffer = p.buffer := rfl

@[simp] theorem close_closed (p : Pipe α cap) : p.close.closed = true := rfl

theorem close_of_closed (h : p.closed = true) : p.close = p := ext rfl h.symm

theorem HasSpace.pop (h : p.HasSpace) : p.pop.HasSpace := by
  rw [HasSpace, pop_buffer, List.length_tail]
  exact Nat.lt_of_le_of_lt (Nat.sub_le _ _) h

/-! ### The two ends -/

/-- What a writer may do: nothing is pushed into a closed or a full buffer. -/
def Allows (p : Pipe α cap) : WriteOp α → Prop
  | .keep => True
  | .push _ => p.closed = false ∧ p.HasSpace
  | .close => True

/-- What a reader may do: it leaves only what the writer has closed. -/
def Serves (p : Pipe α cap) : ReadOp → Prop
  | .keep => True
  | .pop => p.buffer ≠ []
  | .close => p.closed = true

theorem read_closed {r : ReadOp} (h : p.Serves r) : (p.read r).closed = p.closed := by
  cases r with
  | keep => rfl
  | pop => rfl
  | close => exact Eq.symm h

/-- What is closed stays closed. -/
theorem write_closed {w : WriteOp α} (h : p.closed = true) : (p.write w).closed = true := by
  cases w with
  | keep => exact h
  | push a => exact (push_closed p a).trans h
  | close => rfl

/-- The two ends of a pipe do not disturb each other. -/
theorem write_read_comm {w : WriteOp α} {r : ReadOp} (hw : p.Allows w) (hr : p.Serves r) :
    (p.write w).read r = (p.read r).write w := by
  cases r with
  | keep => rfl
  | pop =>
    cases w with
    | keep => rfl
    | push a =>
      refine ext ?_ (by simp [write, read])
      show (p.push a).pop.buffer = (p.pop.push a).buffer
      rw [pop_buffer, push_buffer hw.2, push_buffer hw.2.pop, List.tail_append_of_ne_nil hr, pop_buffer]
    | close => rfl
  | close =>
    show (p.write w).close = p.close.write w
    rw [close_of_closed (write_closed hr), close_of_closed hr]

end Pipe

/-! ## Scripts -/

/-- The rest of what a party does, with what a read has collected so far. -/
inductive Script (α β : Type) where
  | writeAll (rest : List α) (next : Script α β)
  | close (next : Script α β)
  | readToEnd (read : List α) (next : List α → Script α β)
  | ret (result : β)
  /-- The party has returned, and its end is dropped. -/
  | returned (result : β)
  /-- A write has met a closed pipe. -/
  | brokenPipe

namespace Script

variable {α β : Type} {cap : ℕ} {out inp : Pipe α cap} {s s' : Script α β} {w : WriteOp α}
  {r : ReadOp}

/-- The next step of a party that writes to `out` and reads from `inp`, unless it has to wait. -/
def step (out inp : Pipe α cap) : Script α β → Option (Script α β × WriteOp α × ReadOp)
  | .writeAll [] next => some (next, .keep, .keep)
  | .writeAll (a :: rest) next =>
    if out.closed then some (.brokenPipe, .close, .close)
    else if out.HasSpace then some (.writeAll rest next, .push a, .keep)
    else none
  | .close next => some (next, .close, .keep)
  | .readToEnd read next =>
    match inp.buffer with
    | a :: _ => some (.readToEnd (read ++ [a]) next, .keep, .pop)
    | [] => if inp.closed then some (next read, .keep, .keep) else none
  | .ret result => some (.returned result, .close, .close)
  | .returned _ => none
  | .brokenPipe => none

/-- The script writes only while its end is open, and returns only when the other end has
been heard out. -/
inductive Orderly : Bool → Bool → Script α β → Prop where
  | writeAll {heard : Bool} {rest : List α} {next : Script α β} :
    Orderly true heard next → Orderly true heard (.writeAll rest next)
  | close {heard : Bool} {next : Script α β} :
    Orderly false heard next → Orderly true heard (.close next)
  | readToEnd {isOpen : Bool} {read : List α} {next : List α → Script α β} :
    (∀ bytes, Orderly isOpen true (next bytes)) → Orderly isOpen false (.readToEnd read next)
  | ret {isOpen : Bool} {result : β} : Orderly isOpen true (.ret result)
  | returned {isOpen : Bool} {result : β} : Orderly isOpen true (.returned result)

/-- An orderly script at its place: what it has closed is closed, and what it has heard out is. -/
def Fits (out inp : Pipe α cap) (s : Script α β) : Prop :=
  ∃ heard, s.Orderly (!out.closed) heard ∧ (heard = true → inp.closed = true)

/-- Of its pipes the script takes only what they can give, and it closes only its own. -/
theorem Fits.step (h : s.Fits out inp) (hstep : s.step out inp = some (s', w, r)) :
    out.Allows w ∧ inp.Serves r ∧ s'.Fits (out.write w) (inp.read r) := by
  obtain ⟨heard, horderly, hheard⟩ := h
  generalize hopen : (!out.closed) = isOpen at horderly
  cases horderly with
  | @writeAll _ rest next hnext =>
    cases rest with
    | nil =>
      cases hstep
      exact ⟨trivial, trivial, heard, hopen ▸ hnext, hheard⟩
    | cons a rest =>
      have hclosed : out.closed = false := by simpa using hopen
      rw [Script.step, if_neg (by simp [hclosed])] at hstep
      split at hstep
      next hspace =>
        cases hstep
        refine ⟨⟨hclosed, hspace⟩, trivial, heard, ?_, hheard⟩
        rw [Pipe.write, Pipe.push_closed, hopen]
        exact .writeAll hnext
      next => cases hstep
  | close hnext =>
    cases hstep
    exact ⟨trivial, trivial, heard, hnext, hheard⟩
  | @readToEnd _ read next hnext =>
    rw [Script.step] at hstep
    split at hstep
    next a rest hbuffer =>
      cases hstep
      refine ⟨trivial, ?_, false, hopen ▸ .readToEnd hnext, fun h => by cases h⟩
      rw [Pipe.Serves, hbuffer]
      exact List.cons_ne_nil a rest
    next hbuffer =>
      split at hstep
      next hclosed =>
        cases hstep
        exact ⟨trivial, trivial, true, hopen ▸ hnext read, fun _ => hclosed⟩
      next => cases hstep
  | ret =>
    cases hstep
    exact ⟨trivial, hheard rfl, true, .returned, fun _ => rfl⟩
  | returned => cases hstep

/-- What the other party does leaves the next step as it is. -/
theorem step_stable {w' : WriteOp α} {r' : ReadOp} {x : Script α β × WriteOp α × ReadOp}
    (hstep : s.step out inp = some x) (hr : out.Serves r') (hw : inp.Allows w') :
    s.step (out.read r') (inp.write w') = some x := by
  have hclosed := Pipe.read_closed hr
  cases s with
  | writeAll rest next =>
    cases rest with
    | nil => exact hstep
    | cons a rest =>
      rw [step, hclosed]
      rw [step] at hstep
      split at hstep
      next h => rw [if_pos h, hstep]
      next h =>
        rw [if_neg h]
        split at hstep
        next hspace =>
          have hspace' : (out.read r').HasSpace := by
            cases r' with
            | keep => exact hspace
            | pop => exact hspace.pop
            | close => exact hspace
          rw [if_pos hspace', hstep]
        next => cases hstep
  | close next => exact hstep
  | readToEnd read next =>
    cases w' with
    | keep => exact hstep
    | push b =>
      rw [step] at hstep ⊢
      rw [Pipe.write, Pipe.push_buffer hw.2, Pipe.push_closed]
      cases hbuffer : inp.buffer with
      | nil =>
        simp only [hbuffer, hw.1] at hstep
        cases hstep
      | cons a rest =>
        rw [hbuffer] at hstep
        exact hstep
    | close =>
      rw [step] at hstep ⊢
      rw [Pipe.write, Pipe.close_buffer, Pipe.close_closed]
      cases hbuffer : inp.buffer with
      | nil =>
        rw [hbuffer] at hstep
        by_cases h : inp.closed = true
        · exact (if_pos h).symm.trans hstep
        · cases (if_neg h).symm.trans hstep
      | cons a rest =>
        rw [hbuffer] at hstep
        exact hstep
  | ret result => exact hstep
  | returned result => exact hstep
  | brokenPipe => exact hstep

/-- Only what is closed matters to a script at its place. -/
theorem Fits.congr {out' inp' : Pipe α cap} (h : s.Fits out inp) (hout : out'.closed = out.closed)
    (hinp : inp.closed = true → inp'.closed = true) : s.Fits out' inp' := by
  obtain ⟨heard, horderly, hheard⟩ := h
  exact ⟨heard, hout ▸ horderly, fun h => hinp (hheard h)⟩

end Script

/-! ## Two parties -/

structure Net (α β γ : Type) (cap : ℕ) where
  left : Script α β
  right : Script α γ
  toRight : Pipe α cap
  toLeft : Pipe α cap

inductive Side where
  | left
  | right
  deriving DecidableEq

def Side.other : Side → Side
  | .left => .right
  | .right => .left

namespace Net

variable {α β γ : Type} {cap : ℕ} {net net' : Net α β γ cap}

def start (left : Script α β) (right : Script α γ) : Net α β γ cap :=
  ⟨left, right, Pipe.empty, Pipe.empty⟩

def step (net : Net α β γ cap) : Side → Option (Net α β γ cap)
  | .left => (net.left.step net.toRight net.toLeft).map fun x =>
    ⟨x.1, net.right, net.toRight.write x.2.1, net.toLeft.read x.2.2⟩
  | .right => (net.right.step net.toLeft net.toRight).map fun x =>
    ⟨net.left, x.1, net.toRight.read x.2.2, net.toLeft.write x.2.1⟩

abbrev run (net : Net α β γ cap) (schedule : List Side) : Option (Net α β γ cap) :=
  runSchedule step net schedule

/-- Both scripts are at their place. -/
structure Tame (net : Net α β γ cap) : Prop where
  left : net.left.Fits net.toRight net.toLeft
  right : net.right.Fits net.toLeft net.toRight

theorem tame_start {left : Script α β} {right : Script α γ} (hl : left.Orderly true false)
    (hr : right.Orderly true false) : (start left right : Net α β γ cap).Tame :=
  ⟨⟨false, hl, fun h => by cases h⟩, ⟨false, hr, fun h => by cases h⟩⟩

theorem step_left : net.step .left = some net' ↔
    ∃ s w r, net.left.step net.toRight net.toLeft = some (s, w, r) ∧
      ⟨s, net.right, net.toRight.write w, net.toLeft.read r⟩ = net' := by
  rw [step, Option.map_eq_some_iff]
  constructor
  · intro h
    obtain ⟨⟨s, w, r⟩, h, heq⟩ := h
    exact ⟨s, w, r, h, heq⟩
  · intro h
    obtain ⟨s, w, r, h, heq⟩ := h
    exact ⟨(s, w, r), h, heq⟩

theorem step_right : net.step .right = some net' ↔
    ∃ s w r, net.right.step net.toLeft net.toRight = some (s, w, r) ∧
      ⟨net.left, s, net.toRight.read r, net.toLeft.write w⟩ = net' := by
  rw [step, Option.map_eq_some_iff]
  constructor
  · intro h
    obtain ⟨⟨s, w, r⟩, h, heq⟩ := h
    exact ⟨s, w, r, h, heq⟩
  · intro h
    obtain ⟨s, w, r, h, heq⟩ := h
    exact ⟨(s, w, r), h, heq⟩

/-- A step of one party leaves the other at its place. -/
theorem Tame.step (h : net.Tame) {side : Side} (hstep : net.step side = some net') : net'.Tame := by
  cases side with
  | left =>
    obtain ⟨s, w, r, hs, rfl⟩ := step_left.mp hstep
    obtain ⟨hw, hr, hfits⟩ := h.left.step hs
    exact ⟨hfits, h.right.congr (Pipe.read_closed hr) fun hclosed => Pipe.write_closed hclosed⟩
  | right =>
    obtain ⟨s, w, r, hs, rfl⟩ := step_right.mp hstep
    obtain ⟨hw, hr, hfits⟩ := h.right.step hs
    exact ⟨h.left.congr (Pipe.read_closed hr) fun hclosed => Pipe.write_closed hclosed, hfits⟩

theorem Tame.comm (h : net.Tame) {a b : Net α β γ cap} (ha : net.step .left = some a)
    (hb : net.step .right = some b) : ∃ c, a.step .right = some c ∧ b.step .left = some c := by
  obtain ⟨s, w, r, hs, rfl⟩ := step_left.mp ha
  obtain ⟨t, w', r', ht, rfl⟩ := step_right.mp hb
  obtain ⟨hw, hr, -⟩ := h.left.step hs
  obtain ⟨hw', hr', -⟩ := h.right.step ht
  refine ⟨_, step_right.mpr ⟨t, w', r', Script.step_stable ht hr hw, rfl⟩,
    step_left.mpr ⟨s, w, r, Script.step_stable hs hr' hw', ?_⟩⟩
  rw [Pipe.write_read_comm hw hr', Pipe.write_read_comm hw' hr]

/-- **Two orderly scripts do not race.** -/
theorem commuting : Commuting (@step α β γ cap) Tame where
  keeps _ _ _ h hstep := h.step hstep
  comm net i j a b h hne ha hb := by
    cases i with
    | left =>
      cases j with
      | left => exact absurd rfl hne
      | right => exact h.comm ha hb
    | right =>
      cases j with
      | left =>
        obtain ⟨c, hbc, hac⟩ := h.comm hb ha
        exact ⟨c, hac, hbc⟩
      | right => exact absurd rfl hne

/-- A party that cannot go on stays as it is. -/
theorem run_left {schedule : List Side} (h : net.run schedule = some net')
    (hleft : ∀ out inp : Pipe α cap, net.left.step out inp = none) : net'.left = net.left := by
  induction schedule generalizing net with
  | nil => exact congrArg Net.left (runSchedule_nil.mp h).symm
  | cons side schedule ih =>
    obtain ⟨u, hu, h⟩ := runSchedule_cons.mp h
    have hsame : u.left = net.left := by
      cases side with
      | left =>
        obtain ⟨s, w, r, hs, -⟩ := step_left.mp hu
        rw [hleft] at hs
        cases hs
      | right =>
        obtain ⟨s, w, r, -, rfl⟩ := step_right.mp hu
        rfl
    rw [ih h (by rw [hsame]; exact hleft), hsame]

/-! ### Seen from the other side -/

def swap (net : Net α β γ cap) : Net α γ β cap := ⟨net.right, net.left, net.toLeft, net.toRight⟩

theorem step_swap {side : Side} (h : net.step side = some net') :
    net.swap.step side.other = some net'.swap := by
  cases side with
  | left =>
    obtain ⟨s, w, r, hs, rfl⟩ := step_left.mp h
    exact step_right.mpr ⟨s, w, r, hs, rfl⟩
  | right =>
    obtain ⟨s, w, r, hs, rfl⟩ := step_right.mp h
    exact step_left.mpr ⟨s, w, r, hs, rfl⟩

theorem run_swap {schedule : List Side} (h : net.run schedule = some net') :
    net.swap.run (schedule.map Side.other) = some net'.swap := by
  induction schedule generalizing net with
  | nil => exact runSchedule_nil.mpr (congrArg swap (runSchedule_nil.mp h))
  | cons side schedule ih =>
    obtain ⟨u, hu, h⟩ := runSchedule_cons.mp h
    exact runSchedule_cons.mpr ⟨u.swap, step_swap hu, ih h⟩

theorem run_right {schedule : List Side} (h : net.run schedule = some net')
    (hright : ∀ out inp : Pipe α cap, net.right.step out inp = none) : net'.right = net.right :=
  run_left (run_swap h) hright

end Net

/-! ## A request and its reply -/

/-- Writes a message, closes, and hears the reply out. -/
def request {α β : Type} (message : List α) (finish : List α → β) : Script α β :=
  .writeAll message (.close (.readToEnd [] fun reply => .ret (finish reply)))

/-- Writes a reply and closes, or returns without one. -/
def answer {α γ : Type} (result : γ) : Option (List α) → Script α γ
  | some bytes => .writeAll bytes (.close (.ret result))
  | none => .ret result

/-- Hears the message out and answers it. -/
def serve {α γ : Type} (reply : List α → Option (List α)) (result : List α → γ) : Script α γ :=
  .readToEnd [] fun message => answer (result message) (reply message)

section

variable {α β γ : Type} {cap : ℕ}

theorem request_orderly (message : List α) (finish : List α → β) :
    (request message finish).Orderly true false :=
  .writeAll (.close (.readToEnd fun _ => .ret))

theorem serve_orderly (reply : List α → Option (List α)) (result : List α → γ) :
    (serve reply result).Orderly true false := by
  refine .readToEnd fun message => ?_
  cases reply message with
  | none => exact .ret
  | some bytes => exact .writeAll (.close .ret)

/-- One element at a time, from a writer to a reader. -/
theorem exists_transfer (hcap : 0 < cap) (rest read : List α) (left : Script α β)
    (right : List α → Script α γ) (toLeft : Pipe α cap) :
    ∃ schedule, schedule.length = 2 * rest.length ∧
      (⟨.writeAll rest left, .readToEnd read right, Pipe.empty, toLeft⟩ : Net α β γ cap).run schedule =
        some ⟨.writeAll [] left, .readToEnd (read ++ rest) right, Pipe.empty, toLeft⟩ := by
  induction rest generalizing read with
  | nil => exact ⟨[], rfl, runSchedule_nil.mpr (by rw [List.append_nil])⟩
  | cons a rest ih =>
    obtain ⟨schedule, hlength, hrun⟩ := ih (read ++ [a])
    have hspace : (Pipe.empty : Pipe α cap).HasSpace := hcap
    refine ⟨.left :: .right :: schedule, by rw [List.length_cons, List.length_cons, List.length_cons]; omega, ?_⟩
    rw [List.append_assoc, List.singleton_append] at hrun
    have hwrite : (Script.writeAll (a :: rest) left).step Pipe.empty toLeft =
        some (.writeAll rest left, .push a, .keep) := if_pos hspace
    have hbuffer : ((Pipe.empty : Pipe α cap).push a).buffer = [a] := Pipe.push_buffer hspace a
    have hread : (Script.readToEnd read right).step toLeft (Pipe.empty.push a) =
        some (.readToEnd (read ++ [a]) right, .keep, .pop) := by
      rw [Script.step, hbuffer]
    have hempty : ((Pipe.empty : Pipe α cap).push a).pop = Pipe.empty :=
      Pipe.ext (by rw [Pipe.pop_buffer, hbuffer]; rfl) (Pipe.push_closed _ a)
    refine runSchedule_cons.mpr ⟨_, Net.step_left.mpr ⟨_, _, _, hwrite, rfl⟩, ?_⟩
    refine runSchedule_cons.mpr ⟨_, Net.step_right.mpr ⟨_, _, _, hread, rfl⟩, ?_⟩
    show Net.run ⟨_, _, (Pipe.empty.push a).pop, toLeft⟩ schedule = _
    rw [hempty]
    exact hrun

/-- A message arrives as it was written. -/
theorem exists_message (hcap : 0 < cap) (message : List α) (left : Script α β)
    (right : List α → Script α γ) (toLeft : Pipe α cap) :
    ∃ schedule, schedule.length = 2 * message.length + 3 ∧
      (⟨.writeAll message (.close left), .readToEnd [] right, Pipe.empty, toLeft⟩ :
        Net α β γ cap).run schedule = some ⟨left, right message, Pipe.empty.close, toLeft⟩ := by
  obtain ⟨schedule, hlength, hrun⟩ := exists_transfer hcap message [] (.close left) right toLeft
  refine ⟨schedule ++ [.left, .left, .right], by rw [List.length_append, hlength]; rfl, ?_⟩
  exact runSchedule_append.mpr ⟨_, hrun, rfl⟩

/-- The state in which both have returned. -/
def settled (cap : ℕ) (left : β) (right : γ) : Net α β γ cap :=
  ⟨.returned left, .returned right, Pipe.empty.close, Pipe.empty.close⟩

theorem settled_ended (left : β) (right : γ) :
    Ended Net.step (settled cap left right : Net α β γ cap) := by
  intro side
  cases side <;> rfl

/-- How many steps a request and its reply take. -/
def exchangeSteps (message : List α) : Option (List α) → ℕ
  | some bytes => 2 * message.length + 2 * bytes.length + 8
  | none => 2 * message.length + 6

theorem exists_exchange (hcap : 0 < cap) (message : List α) (finish : List α → β)
    (reply : List α → Option (List α)) (result : List α → γ) :
    ∃ schedule, schedule.length = exchangeSteps message (reply message) ∧
      (Net.start (request message finish) (serve reply result) : Net α β γ cap).run schedule =
        some (settled cap (finish ((reply message).getD [])) (result message)) := by
  obtain ⟨there, hthere, hmessage⟩ := exists_message hcap message
    (.readToEnd [] fun reply => .ret (finish reply))
    (fun message => answer (result message) (reply message)) (Pipe.empty : Pipe α cap)
  cases hreply : reply message with
  | none =>
    refine ⟨there ++ [.right, .left, .left], by rw [List.length_append, hthere]; rfl, ?_⟩
    refine runSchedule_append.mpr ⟨_, hmessage, ?_⟩
    rw [hreply]
    rfl
  | some bytes =>
    obtain ⟨back, hback, hbytes⟩ := exists_message hcap bytes (.ret (result message))
      (fun reply => Script.ret (finish reply)) (Pipe.empty.close : Pipe α cap)
    refine ⟨there ++ (back.map Side.other ++ [.left, .right]), ?_, ?_⟩
    · rw [List.length_append, List.length_append, List.length_map, hthere, hback]
      show _ = 2 * message.length + 2 * bytes.length + 8
      have htwo : [Side.left, Side.right].length = 2 := rfl
      omega
    · refine runSchedule_append.mpr ⟨_, hmessage, ?_⟩
      rw [hreply]
      exact runSchedule_append.mpr ⟨_, Net.run_swap hbytes, rfl⟩

/-- **A request is answered on every schedule**, at any capacity. However the two parties
have been interleaved, they can go on, and the rest of their steps, whose number is known,
ends with what the answer to the message says. -/
theorem exchange (hcap : 0 < cap) (message : List α) (finish : List α → β)
    (reply : List α → Option (List α)) (result : List α → γ) {schedule : List Side}
    {net : Net α β γ cap}
    (h : (Net.start (request message finish) (serve reply result)).run schedule = some net) :
    ∃ rest, net.run rest = some (settled cap (finish ((reply message).getD [])) (result message)) ∧
      schedule.length + rest.length = exchangeSteps message (reply message) := by
  obtain ⟨is, hlength, hrun⟩ := exists_exchange hcap message finish reply result
  rw [← hlength]
  exact Net.commuting.run_completes
    (Net.tame_start (request_orderly message finish) (serve_orderly reply result)) hrun
    (settled_ended _ _) h

end

end Lib.Duplex
