import LiveChat.Rehearsal.World

/-!
What the tasks of a world keep when they take turns, they keep until none can go on, and while the
clock moves from alarm to alarm.
-/

set_option autoImplicit false

namespace LiveChat.Rehearsal.World

variable {before after : World}

/-- Nothing is different but who is to be served next, and what was answered. -/
def Alike (before after : World) : Prop :=
  ∃ ready answer consoleAnswer, after = { before with ready, answer, consoleAnswer }

theorem alike_trans {middle : World} (first : Alike before middle) (second : Alike middle after) :
    Alike before after := by
  obtain ⟨_, _, _, rfl⟩ := first
  obtain ⟨_, _, _, rfl⟩ := second
  exact ⟨_, _, _, rfl⟩

theorem wake_alike (task : Task) (world : World) : Alike world (world.wake task) := by
  unfold wake
  split
  · exact ⟨_, _, _, rfl⟩
  · exact ⟨_, _, _, rfl⟩

theorem wake_if_alike (condition : Bool) (task : Task) (world : World) :
    Alike world (world.wakeIf condition task) := by
  unfold wakeIf
  split
  · exact wake_alike task world
  · exact ⟨_, _, _, rfl⟩

theorem rouse_alike (world : World) : Alike world world.rouse :=
  alike_trans (alike_trans (wake_if_alike _ _ _) (wake_if_alike _ _ _)) (wake_if_alike _ _ _)

theorem rouse_parked_alike (world : World) : Alike world world.rouseParked :=
  wake_if_alike _ _ _

theorem set_answer_alike (caller : Caller) (answer : Answer) (world : World) :
    Alike world (world.setAnswer caller answer) := by
  cases caller with
  | operator => exact ⟨_, _, _, rfl⟩
  | console =>
      have told : Alike world { world with consoleAnswer := some answer } := ⟨_, _, _, rfl⟩
      exact alike_trans told (wake_alike _ _)

theorem fold_alike {Item : Type} (change : World → Item → World)
    (kept : ∀ world item, Alike world (change world item)) (items : List Item) (world : World) :
    Alike world (items.foldl change world) := by
  induction items generalizing world with
  | nil => exact ⟨_, _, _, rfl⟩
  | cons item rest induction => exact alike_trans (kept world item) (induction _)

/-- A relation that every turn keeps, and that does not look at the clock. -/
structure Kept (Related : World → World → Prop) : Prop where
  alike : ∀ {before after : World}, Alike before after → Related before after
  clock : ∀ (world : World) (now : Nat), Related world { world with now }
  trans : ∀ {before middle after : World},
    Related before middle → Related middle after → Related before after
  turn : ∀ {world after : World} {task : Task}, world.turn task = some after → Related world after

namespace Kept

variable {Related : World → World → Prop} (kept : Kept Related)

include kept

theorem serve (task : Task) (count : Nat) (world : World) :
    Related world (World.serve task count world) := by
  induction count generalizing world with
  | zero => exact kept.alike (wake_alike task world)
  | succ count induction =>
      unfold World.serve
      split
      · exact kept.alike ⟨_, _, _, rfl⟩
      · next turned => exact kept.trans (kept.turn turned) (induction _)

theorem settle_within (count : Nat) (world : World) : Related world (settleWithin count world) := by
  induction count generalizing world with
  | zero => exact kept.alike ⟨_, _, _, rfl⟩
  | succ count induction =>
      unfold settleWithin
      split
      · exact kept.alike ⟨_, _, _, rfl⟩
      · next task ready _ =>
        have started : Related world { world with ready } := kept.alike ⟨_, _, _, rfl⟩
        exact kept.trans started (kept.trans (kept.serve task share _) (induction _))

theorem wake_at (now : Nat) (world : World) : Related world (world.wakeAt now) :=
  kept.trans (kept.clock world now) (kept.alike (fold_alike _ (fun _ _ => wake_alike _ _) _ _))

theorem advance (now target : Nat) (world : World) :
    Related world (world.advanceFrom now target) := by
  induction now, world using advanceFrom.induct target with
  | case1 now world alarm next between induction =>
      rw [advanceFrom]
      simp only [next, dif_pos between]
      exact kept.trans (kept.wake_at alarm world)
        (kept.trans (kept.settle_within maxTurns _) induction)
  | case2 now world alarm next beyond =>
      rw [advanceFrom]
      simp only [next, dif_neg beyond]
      exact kept.wake_at target world
  | case3 now world unset =>
      rw [advanceFrom]
      simp only [unset]
      exact kept.wake_at target world

end Kept

end LiveChat.Rehearsal.World
