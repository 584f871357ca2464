import Mathlib.Data.List.Basic
import Mathlib.Logic.Function.Basic
import Mathlib.Tactic.Common

namespace TryLock

/-- How a call ends: with the object's answer, turned away because the lock is taken, turned away because
    an earlier holder crashed, or by crashing under the lock. -/
inductive Ending (Answer : Type*)
  | done (answer : Answer)
  | busy
  | poisoned
  | crashed

/-- Where a caller stands in its call. Under the lock it reads the object and writes it back later. -/
inductive Phase (σ Op Answer : Type*)
  | idle
  | called (op : Op)
  | inside (op : Op)
  | seen (op : Op) (s : σ)
  | holding (ending : Ending Answer)
  | answered (ending : Ending Answer)

/-- The phases in which the caller's guard is alive. -/
def Phase.Locks {σ Op Answer : Type*} : Phase σ Op Answer → Prop
  | .inside _ | .seen _ _ | .holding _ => True
  | _ => False

/-- The phases in which the caller may still crash or take effect. -/
def Phase.Works {σ Op Answer : Type*} : Phase σ Op Answer → Prop
  | .inside _ | .seen _ _ => True
  | _ => False

structure Config (Caller σ Op Answer : Type*) where
  value : σ
  locked : Bool
  poisoned : Bool
  phase : Caller → Phase σ Op Answer

/-- What an observer notes of a step; the bookkeeping of a caller under way is silent. -/
inductive Move (Caller Op Answer : Type*)
  | call (t : Caller) (op : Op)
  | silent (t : Caller)
  | commit (t : Caller) (op : Op) (answer : Answer)
  | crash (t : Caller)
  | ret (t : Caller) (ending : Ending Answer)

def Move.owner {Caller Op Answer : Type*} : Move Caller Op Answer → Caller
  | .call t _ | .silent t | .commit t _ _ | .crash t | .ret t _ => t

variable {Caller σ Op Answer : Type*} [DecidableEq Caller]

def Config.start (s : σ) : Config Caller σ Op Answer := ⟨s, false, false, fun _ => .idle⟩

def Config.put (c : Config Caller σ Op Answer) (t : Caller) (p : Phase σ Op Answer) :
    Config Caller σ Op Answer :=
  { c with phase := Function.update c.phase t p }

variable (perform : σ → Op → σ × Answer)

/-- Any number of callers that try the lock and never wait for it. A holder that crashes leaves the object
    as it was and poisons the lock; whoever gets a poisoned lock gives it back. -/
inductive Step (c : Config Caller σ Op Answer) : Move Caller Op Answer → Config Caller σ Op Answer → Prop
  | call {t : Caller} {op : Op} (phase : c.phase t = .idle) : Step c (.call t op) (c.put t (.called op))
  | busy {t : Caller} {op : Op} (phase : c.phase t = .called op) (taken : c.locked = true) :
    Step c (.silent t) (c.put t (.answered .busy))
  | enter {t : Caller} {op : Op} (phase : c.phase t = .called op) (free : c.locked = false)
      (clean : c.poisoned = false) : Step c (.silent t) { c.put t (.inside op) with locked := true }
  | refuse {t : Caller} {op : Op} (phase : c.phase t = .called op) (free : c.locked = false)
      (spoilt : c.poisoned = true) : Step c (.silent t) { c.put t (.holding .poisoned) with locked := true }
  | read {t : Caller} {op : Op} (phase : c.phase t = .inside op) :
    Step c (.silent t) (c.put t (.seen op c.value))
  | commit {t : Caller} {op : Op} {s : σ} (phase : c.phase t = .seen op s) :
    Step c (.commit t op (perform s op).2)
      { c.put t (.holding (.done (perform s op).2)) with value := (perform s op).1 }
  | crash {t : Caller} (phase : (c.phase t).Works) :
    Step c (.crash t) { c.put t (.answered .crashed) with locked := false, poisoned := true }
  | release {t : Caller} {ending : Ending Answer} (phase : c.phase t = .holding ending) :
    Step c (.silent t) { c.put t (.answered ending) with locked := false }
  | ret {t : Caller} {ending : Ending Answer} (phase : c.phase t = .answered ending) :
    Step c (.ret t ending) (c.put t .idle)

inductive Run (c₀ : Config Caller σ Op Answer) : List (Move Caller Op Answer) →
    Config Caller σ Op Answer → Prop
  | start : Run c₀ [] c₀
  | step {moves : List (Move Caller Op Answer)} {c c' : Config Caller σ Op Answer}
      {m : Move Caller Op Answer} (run : Run c₀ moves c) (step : Step perform c m c') :
      Run c₀ (moves ++ [m]) c'

/-- The operations that took effect, in the order in which they did, with their answers. -/
def effects (moves : List (Move Caller Op Answer)) : List (Op × Answer) :=
  moves.filterMap fun
    | .commit _ op answer => some (op, answer)
    | _ => none

/-- The operations one after another. -/
def serially : σ → List Op → σ × List Answer
  | s, [] => (s, [])
  | s, op :: ops =>
    let (s', answer) := perform s op
    let (last, answers) := serially s' ops
    (last, answer :: answers)

variable {perform}

theorem serially_concat (s : σ) (ops : List Op) (op : Op) : serially perform s (ops ++ [op]) =
    ((perform (serially perform s ops).1 op).1,
      (serially perform s ops).2 ++ [(perform (serially perform s ops).1 op).2]) := by
  induction ops generalizing s with
  | nil => rfl
  | cons first ops ih => simp [serially, ih]

/-- At most one caller is under the lock; what it has read is current; and a poisoned object is not
    worked on. -/
structure Orderly (c : Config Caller σ Op Answer) : Prop where
  exclusive : ∀ t u, (c.phase t).Locks → (c.phase u).Locks → t = u
  locked : ∀ t, (c.phase t).Locks → c.locked = true
  current : ∀ t op s, c.phase t = .seen op s → s = c.value
  spoilt : c.poisoned = true → ∀ t, ¬ (c.phase t).Works

theorem Phase.Works.locks {p : Phase σ Op Answer} (works : p.Works) : p.Locks := by
  cases p <;> trivial

namespace Orderly

variable {c c' : Config Caller σ Op Answer} {m : Move Caller Op Answer}

omit [DecidableEq Caller] in
theorem start (s : σ) : Orderly (Config.start s : Config Caller σ Op Answer) where
  exclusive _ _ locks := locks.elim
  locked _ locks := locks.elim
  current _ _ _ phase := nomatch phase
  spoilt _ _ works := works

theorem phase_put {t u : Caller} {p : Phase σ Op Answer} :
    (c.put t p).phase u = if u = t then p else c.phase u := by
  simp [Config.put, Function.update_apply]

/-- A caller outside the lock changes its phase. -/
theorem outside {t : Caller} {p : Phase σ Op Answer} (orderly : Orderly c) (free : ¬ p.Locks) :
    Orderly (c.put t p) := by
  have back : ∀ u, ((c.put t p).phase u).Locks → (c.put t p).phase u = c.phase u := by
    intro u holds
    rw [phase_put] at holds ⊢
    split at holds
    · exact absurd holds free
    · rw [if_neg ‹_›]
  constructor
  · intro u v first second
    exact orderly.exclusive u v (back u first ▸ first) (back v second ▸ second)
  · intro u holds
    exact orderly.locked u (back u holds ▸ holds)
  · intro u op s seen
    exact orderly.current u op s ((back u (seen ▸ trivial)).symm.trans seen)
  · intro poisoned u works
    exact orderly.spoilt poisoned u (back u works.locks ▸ works)

/-- The only caller that may be under the lock changes its phase, the lock and the object. -/
theorem alone {t : Caller} {p : Phase σ Op Answer} {s : σ} {locked poisoned : Bool}
    (others : ∀ u, (c.phase u).Locks → u = t) (taken : p.Locks → locked = true)
    (current : ∀ op s', p = .seen op s' → s' = s) (spoilt : poisoned = true → ¬ p.Works) :
    Orderly { c.put t p with value := s, locked := locked, poisoned := poisoned } := by
  have back : ∀ u, ((c.put t p).phase u).Locks → u = t := by
    intro u holds
    rw [phase_put] at holds
    split at holds
    · assumption
    · exact others u holds
  have here : (c.put t p).phase t = p := by rw [phase_put, if_pos rfl]
  constructor
  · intro u v first second
    exact (back u first).trans (back v second).symm
  · intro u holds
    cases back u holds
    exact taken (here ▸ holds)
  · intro u op s' seen
    cases back u (show ((c.put t p).phase u).Locks from seen ▸ trivial)
    exact current op s' (here.symm.trans seen)
  · intro flag u works
    cases back u (show ((c.put t p).phase u).Locks from works.locks)
    exact spoilt flag (here ▸ works)

theorem step (orderly : Orderly c) (step : Step perform c m c') : Orderly c' := by
  cases step with
  | call phase => exact orderly.outside id
  | busy phase taken => exact orderly.outside id
  | ret phase => exact orderly.outside id
  | enter phase free clean =>
    refine alone (fun u holds => ?_) (fun _ => rfl) nofun fun spoilt => ?_
    · exact absurd (free.symm.trans (orderly.locked u holds)) Bool.false_ne_true
    · exact absurd (clean.symm.trans spoilt) Bool.false_ne_true
  | refuse phase free spoilt =>
    refine alone (fun u holds => ?_) (fun _ => rfl) nofun fun _ => id
    exact absurd (free.symm.trans (orderly.locked u holds)) Bool.false_ne_true
  | @read t op phase =>
    have holds : (c.phase t).Locks := phase ▸ trivial
    refine alone (fun u other => orderly.exclusive u t other holds) (fun _ => orderly.locked t holds)
      (fun op s' seen => ?_) fun spoilt => ?_
    · cases seen
      rfl
    · exact absurd (show (c.phase t).Works from phase ▸ trivial) (orderly.spoilt spoilt t)
  | @commit t op s phase =>
    have holds : (c.phase t).Locks := phase ▸ trivial
    exact alone (fun u other => orderly.exclusive u t other holds) (fun _ => orderly.locked t holds) nofun
      fun _ => id
  | @crash t phase =>
    exact alone (fun u other => orderly.exclusive u t other phase.locks) False.elim nofun fun _ => id
  | @release t ending phase =>
    have holds : (c.phase t).Locks := phase ▸ trivial
    exact alone (fun u other => orderly.exclusive u t other holds) False.elim nofun fun _ => id

end Orderly

variable {c₀ c : Config Caller σ Op Answer} {moves : List (Move Caller Op Answer)} {s : σ}

theorem Run.orderly (run : Run perform (.start s) moves c) : Orderly c := by
  induction run with
  | start => exact .start s
  | step _ step ih => exact ih.step step

/-- The operations that took effect did so as if each had run alone, in that order. -/
theorem Run.serial (run : Run perform (.start s) moves c) :
    serially perform s ((effects moves).map Prod.fst) = (c.value, (effects moves).map Prod.snd) := by
  induction run with
  | start => rfl
  | @step moves c c' m run step ih =>
    have silent (quiet : effects [m] = []) (same : c'.value = c.value) :
        serially perform s ((effects (moves ++ [m])).map Prod.fst) =
          (c'.value, (effects (moves ++ [m])).map Prod.snd) := by
      have still : effects (moves ++ [m]) = effects moves := by
        rw [effects, List.filterMap_append, ← effects, ← effects, quiet, List.append_nil]
      rw [still, same, ih]
    cases step with
    | @commit t op s' phase =>
      have current := run.orderly.current t op s' phase
      have more : effects (moves ++ [.commit t op (perform s' op).2]) =
          effects moves ++ [(op, (perform s' op).2)] := by
        simp [effects]
      rw [more, List.map_append, List.map_append, List.map_singleton, List.map_singleton, serially_concat, ih,
        current]
    | _ => exact silent rfl rfl

/-- No visible move of the caller: its bookkeeping and other callers' moves. -/
def Quiet (t : Caller) (moves : List (Move Caller Op Answer)) : Prop :=
  ∀ m ∈ moves, m.owner = t → m = .silent t

/-- The caller's last visible move is the call. -/
def Opened (t : Caller) (op : Op) (moves : List (Move Caller Op Answer)) : Prop :=
  ∃ before mid, moves = before ++ .call t op :: mid ∧ Quiet t mid

/-- What the caller's last call came to: an answered one took effect once, with that answer, after the
    call; one turned away or crashed took no effect. -/
def Ended (t : Caller) (moves : List (Move Caller Op Answer)) : Ending Answer → Prop
  | .done answer => ∃ op before after, moves = before ++ .commit t op answer :: after ∧
      Opened t op before ∧ Quiet t after
  | .crashed => ∃ op before after, moves = before ++ .crash t :: after ∧ Opened t op before ∧ Quiet t after
  | .busy | .poisoned => ∃ op, Opened t op moves

def Told (t : Caller) (moves : List (Move Caller Op Answer)) : Phase σ Op Answer → Prop
  | .idle => True
  | .called op | .inside op | .seen op _ => Opened t op moves
  | .holding ending | .answered ending => Ended t moves ending

section Calls

variable {t : Caller} {op : Op} {m : Move Caller Op Answer} {ending : Ending Answer}

omit [DecidableEq Caller] in
theorem Opened.snoc (opened : Opened t op moves) (quiet : m.owner = t → m = .silent t) :
    Opened t op (moves ++ [m]) := by
  rcases opened with ⟨before, mid, rfl, still⟩
  refine ⟨before, mid ++ [m], by simp, fun m' member own => ?_⟩
  rcases List.mem_append.mp member with earlier | last
  · exact still m' earlier own
  · rw [List.mem_singleton.mp last] at own ⊢
    exact quiet own

omit [DecidableEq Caller] in
theorem Ended.snoc (ended : Ended t moves ending) (quiet : m.owner = t → m = .silent t) :
    Ended t (moves ++ [m]) ending := by
  have still {after : List (Move Caller Op Answer)} (calm : Quiet t after) : Quiet t (after ++ [m]) := by
    intro m' member own
    rcases List.mem_append.mp member with earlier | last
    · exact calm m' earlier own
    · rw [List.mem_singleton.mp last] at own ⊢
      exact quiet own
  cases ending with
  | done answer =>
    rcases ended with ⟨op, before, after, rfl, opened, calm⟩
    exact ⟨op, before, after ++ [m], by simp, opened, still calm⟩
  | crashed =>
    rcases ended with ⟨op, before, after, rfl, opened, calm⟩
    exact ⟨op, before, after ++ [m], by simp, opened, still calm⟩
  | busy => exact ended.imp fun op opened => opened.snoc quiet
  | poisoned => exact ended.imp fun op opened => opened.snoc quiet

omit [DecidableEq Caller] in
theorem Told.snoc {p : Phase σ Op Answer} (told : Told t moves p) (quiet : m.owner = t → m = .silent t) :
    Told t (moves ++ [m]) p := by
  cases p with
  | idle => trivial
  | called op => exact Opened.snoc told quiet
  | inside op => exact Opened.snoc told quiet
  | seen op s => exact Opened.snoc told quiet
  | holding ending => exact Ended.snoc told quiet
  | answered ending => exact Ended.snoc told quiet

/-- Every step changes the phase of its owner only. -/
theorem Step.put {c c' : Config Caller σ Op Answer} (step : Step perform c m c') :
    ∃ p, c'.phase = Function.update c.phase m.owner p := by
  cases step <;> exact ⟨_, rfl⟩

theorem Step.told {c c' : Config Caller σ Op Answer} (step : Step perform c m c')
    (told : Told m.owner moves (c.phase m.owner)) :
    Told m.owner (moves ++ [m]) (c'.phase m.owner) := by
  cases step with
  | call phase =>
    simp only [Move.owner, Config.put, Function.update_self]
    exact ⟨moves, [], rfl, nofun⟩
  | @busy t op phase taken =>
    simp only [Move.owner, Config.put, Function.update_self, phase] at told ⊢
    exact ⟨op, Opened.snoc told fun _ => rfl⟩
  | @enter t op phase free clean =>
    simp only [Move.owner, Config.put, Function.update_self, phase] at told ⊢
    exact Opened.snoc told fun _ => rfl
  | @refuse t op phase free spoilt =>
    simp only [Move.owner, Config.put, Function.update_self, phase] at told ⊢
    exact ⟨op, Opened.snoc told fun _ => rfl⟩
  | @read t op phase =>
    simp only [Move.owner, Config.put, Function.update_self, phase] at told ⊢
    exact Opened.snoc told fun _ => rfl
  | @commit t op s phase =>
    simp only [Move.owner, Config.put, Function.update_self, phase] at told ⊢
    exact ⟨op, moves, [], rfl, told, nofun⟩
  | @crash t phase =>
    simp only [Move.owner, Config.put, Function.update_self] at told ⊢
    obtain ⟨op, opened⟩ : ∃ op, Opened t op moves := by
      cases here : c.phase t with
      | inside op => exact ⟨op, by rwa [here] at told⟩
      | seen op s => exact ⟨op, by rwa [here] at told⟩
      | _ => simp [here, Phase.Works] at phase
    exact ⟨op, moves, [], rfl, opened, nofun⟩
  | @release t ending phase =>
    simp only [Move.owner, Config.put, Function.update_self, phase] at told ⊢
    exact Ended.snoc told fun _ => rfl
  | ret phase =>
    simp only [Move.owner, Config.put, Function.update_self]
    trivial

theorem Run.told (run : Run perform (.start s) moves c) (t : Caller) : Told t moves (c.phase t) := by
  induction run with
  | start => trivial
  | @step moves c c' m run step ih =>
    by_cases own : m.owner = t
    · subst own
      exact step.told ih
    · obtain ⟨p, same⟩ := step.put
      rw [same, Function.update_of_ne (Ne.symm own)]
      exact ih.snoc fun here => absurd here own

omit [DecidableEq Caller] in
theorem split_snoc {before after : List (Move Caller Op Answer)} {m' : Move Caller Op Answer}
    (same : before ++ m :: after = moves ++ [m']) :
    (before = moves ∧ m = m' ∧ after = []) ∨ ∃ front, before ++ m :: front = moves ∧ after = front ++ [m'] := by
  rcases List.eq_nil_or_concat after with rfl | ⟨front, final, rfl⟩
  · obtain ⟨earlier, last⟩ := List.append_inj' same rfl
    exact .inl ⟨earlier, List.singleton_inj.mp last, rfl⟩
  · rw [List.concat_eq_append, ← List.cons_append, ← List.append_assoc] at same
    obtain ⟨earlier, last⟩ := List.append_inj' same rfl
    exact .inr ⟨front, earlier, by rw [List.concat_eq_append, List.singleton_inj.mp last]⟩

theorem Run.front {before after : List (Move Caller Op Answer)} (run : Run perform c₀ (before ++ m :: after) c) :
    ∃ c₁ c₂, Run perform c₀ before c₁ ∧ Step perform c₁ m c₂ := by
  generalize same : before ++ m :: after = moves at run
  induction run generalizing after with
  | start => simp at same
  | @step moves c₁ c₂ last run step ih =>
    rcases split_snoc same with ⟨rfl, rfl, -⟩ | ⟨front, earlier, -⟩
    · exact ⟨c₁, c₂, run, step⟩
    · exact ih earlier

/-- Every answer handed out is the answer of one effect, taken during that call. -/
theorem Run.returned {before after : List (Move Caller Op Answer)}
    (run : Run perform (.start s) (before ++ .ret t ending :: after) c) : Ended t before ending := by
  obtain ⟨c₁, c₂, earlier, step⟩ := run.front
  have told := earlier.told t
  cases step with
  | ret phase => rwa [phase] at told

end Calls

section Poison

variable {t : Caller}

end Poison

section Progress

variable {t : Caller} {c' : Config Caller σ Op Answer} {m : Move Caller Op Answer}

/-- How many moves of its own a caller is from being idle, at most. -/
def Phase.rank : Phase σ Op Answer → Nat
  | .idle => 0
  | .answered _ => 1
  | .holding _ => 2
  | .seen _ _ => 3
  | .inside _ => 4
  | .called _ => 5

/-- A caller under way always has a move, whatever the others do. -/
theorem Config.ready (c : Config Caller σ Op Answer) (busy : c.phase t ≠ .idle) :
    ∃ m c', m.owner = t ∧ Step perform c m c' := by
  cases phase : c.phase t with
  | idle => exact absurd phase busy
  | called op =>
    cases taken : c.locked with
    | true => exact ⟨_, _, rfl, .busy phase taken⟩
    | false =>
      cases spoilt : c.poisoned with
      | true => exact ⟨_, _, rfl, .refuse phase taken spoilt⟩
      | false => exact ⟨_, _, rfl, .enter phase taken spoilt⟩
  | inside op => exact ⟨_, _, rfl, .read phase⟩
  | seen op s => exact ⟨_, _, rfl, .commit phase⟩
  | holding ending => exact ⟨_, _, rfl, .release phase⟩
  | answered ending => exact ⟨_, _, rfl, .ret phase⟩

theorem Step.rank (step : Step perform c m c') (under : ∀ op, m ≠ .call t op) :
    (c'.phase t).rank + (if m.owner = t then 1 else 0) ≤ (c.phase t).rank := by
  by_cases own : m.owner = t
  · subst own
    cases step with
    | call phase => exact absurd rfl (under _)
    | @crash t phase =>
      simp only [Move.owner, Config.put, Function.update_self, if_true]
      cases here : c.phase t <;> simp [here, Phase.Works, Phase.rank] at phase ⊢
    | _ => simp_all [Move.owner, Config.put, Phase.rank]
  · obtain ⟨p, same⟩ := step.put
    rw [same, Function.update_of_ne (Ne.symm own), if_neg own]
    exact Nat.le_refl _

theorem Run.under (run : Run perform c₀ moves c) {op : Op} {before mid : List (Move Caller Op Answer)}
    (same : before ++ .call t op :: mid = moves) (open_ : ∀ ending, .ret t ending ∉ mid) :
    c.phase t ≠ .idle ∧ (c.phase t).rank + mid.countP (·.owner = t) ≤ 5 := by
  induction run generalizing mid with
  | start => simp at same
  | @step moves c₁ c₂ m run step ih =>
    rcases split_snoc same with ⟨-, rfl, rfl⟩ | ⟨front, earlier, rfl⟩
    · cases step
      simp [Config.put, Phase.rank]
    · obtain ⟨busy, bound⟩ := ih earlier fun ending member => open_ ending (by simp [member])
      have lowered := step.rank (t := t) fun op' call => by
        subst call
        cases step with
        | call phase => exact busy phase
      refine ⟨?_, ?_⟩
      · by_cases own : m.owner = t
        · subst own
          cases step with
          | @ret t ending phase => exact absurd (List.mem_append_right _ (List.mem_singleton.mpr rfl)) (open_ ending)
          | _ => simp [Move.owner, Config.put]
        · obtain ⟨p, same⟩ := step.put
          rwa [same, Function.update_of_ne (Ne.symm own)]
      · rw [List.countP_append, List.countP_singleton]
        simp only [decide_eq_true_eq]
        omega

/-- A call returns within five moves of its caller, whatever the others do. -/
theorem Run.bounded {op : Op} {before mid : List (Move Caller Op Answer)}
    (run : Run perform c₀ (before ++ .call t op :: mid) c) (open_ : ∀ ending, .ret t ending ∉ mid) :
    mid.countP (·.owner = t) ≤ 4 := by
  obtain ⟨busy, bound⟩ := run.under rfl open_
  have positive : 0 < (c.phase t).rank := by
    cases phase : c.phase t with
    | idle => exact absurd phase busy
    | _ => simp [Phase.rank]
  omega

end Progress

end TryLock
