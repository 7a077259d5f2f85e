import BatchExec.Proofs.Stream.Closing
import BatchExec.Proofs.Stream.Turn

/-!
# The peak of an event-driven run

Only the producer raises the number of running launches, and the peak with it.

* `Tally.Climbs`: the number of running launches stays, or it grows and the peak is kept up.
* `Stream.climbs_produce`: the turn of the producer.
* `Stream.peak_of_next?`: **whatever comes next, the peak stays or it is kept up with the number of
  running launches.**
-/

namespace BatchExec

namespace Tally

/-- The number of running launches stays, or it grows and the peak is kept up. -/
def Climbs (t t' : Tally) : Prop :=
  t'.active = t.active ∧ t'.peak = t.peak ∨ t.active < t'.active ∧ t'.peak = max t.peak t'.active

theorem Climbs.refl (t : Tally) : t.Climbs t := .inl ⟨rfl, rfl⟩

theorem Climbs.trans {t t' t'' : Tally} (first : t.Climbs t') (second : t'.Climbs t'') :
    t.Climbs t'' := by
  unfold Climbs at *
  omega

theorem climbs_count (t : Tally) : t.Climbs t.count := .inr ⟨Nat.lt_succ_self _, rfl⟩

theorem climbs_of_reserve? {t t' : Tally} (reserved : t.reserve? = some t') : t.Climbs t' := by
  rw [(reserve?_eq reserved).1]
  exact .inl ⟨rfl, rfl⟩

theorem peak_release (t : Tally) (index : Int) : (t.release index).1.peak = t.peak := by
  unfold release
  split <;> rfl

theorem peak_finish (t : Tally) (b : Batch) (ending : Ending) :
    (t.finish b ending).1.peak = t.peak := by
  have released := peak_release t b.index
  unfold finish
  dsimp only
  split <;> exact released

end Tally

namespace Stream

variable {consumer : Consumer} {launch : Launcher} {detour : Bool} {s t : Stream}

/-! ## The consumer -/

@[simp] theorem peak_note (s : Stream) (happenings : List Happening) :
    (s.note happenings).tally.peak = s.tally.peak := rfl

@[simp] theorem peak_cancel (s : Stream) : s.cancel.tally.peak = s.tally.peak := by
  unfold cancel
  split <;> rfl

@[simp] theorem peak_hear (consumer : Consumer) (s : Stream) (e : Event) :
    (hear consumer s e).tally.peak = s.tally.peak := by
  unfold hear
  dsimp only
  split <;> split <;> simp

/-- Whoever leaves leaves the tally alone. -/
theorem tally_leave (s : Stream) (error : Option RunError) : (s.leave error).tally = s.tally := by
  unfold leave
  dsimp only
  split
  · rfl
  · exact (rings_notify (s.cutOff error)).tally

@[simp] theorem peak_handle (consumer : Consumer) (s : Stream) (e : Event) :
    (handle consumer s e).tally.peak = s.tally.peak := by
  have heard := peak_hear consumer { s with consumer := .idle } e
  unfold handle
  split
  · rw [tally_leave]
    exact heard
  · exact heard

@[simp] theorem peak_deliver (consumer : Consumer) (items : List (Option Event)) (s : Stream) :
    (deliver consumer items s).tally.peak = s.tally.peak := by
  fun_induction deliver consumer items s with
  | case3 rest s e idle prompt ih => rw [ih, peak_handle]
  | _ => rfl

theorem peak_consume (consumer : Consumer) (s : Stream) :
    (consume consumer s).tally.peak = s.tally.peak := by
  unfold consume
  dsimp only
  split <;> simp

/-! ## Launches -/

theorem peak_put (s : Stream) (item : Option Event) : (s.put item).tally.peak = s.tally.peak := by
  unfold put
  dsimp only
  split <;> rfl

theorem peak_grant (s : Stream) : s.grant.tally.peak = s.tally.peak := by
  unfold grant
  split
  · rename_i b tally waits reserved
    rw [(Tally.reserve?_eq reserved).1]
    rfl
  · rfl

theorem peak_book (s : Stream) (outcome : Tally × List Happening × Option Event) :
    (s.book outcome).tally.peak = outcome.1.peak := by
  have granted := peak_grant (note { s with tally := outcome.1 } outcome.2.1)
  unfold book
  dsimp only
  split
  · rw [peak_put, granted]
    rfl
  · exact granted

theorem peak_finish (s : Stream) (b : Batch) (plan : Plan) :
    (s.finish b plan).tally.peak = s.tally.peak := by
  unfold finish
  dsimp only
  rw [(rings_conclude _).tally, peak_book, Tally.peak_finish]
  split <;> simp

theorem peak_start (launch : Launcher) (s : Stream) (b : Batch) :
    (start launch s b).tally.peak = s.tally.peak := by
  unfold start
  dsimp only
  split
  · rw [peak_finish]
    rfl
  · split <;> rfl

/-! ## The producer -/

theorem climbs_admitBatch (s : Stream) (b : Batch) : s.tally.Climbs (s.admitBatch b).tally :=
  Tally.climbs_count s.tally

theorem climbs_close (s : Stream) (early : Bool) : s.tally.Climbs (s.close early).tally :=
  (rings_close s early).tally ▸ .refl _

theorem climbs_refuse (s : Stream) (b : Batch) : s.tally.Climbs (s.refuse b).tally :=
  climbs_close (s.note [.refused b]) true

theorem climbs_receive (s : Stream) (b : Batch) : s.tally.Climbs (s.receive b).tally := by
  simp only [receive]
  split
  · exact climbs_refuse (s.note [.received b]) b
  · split
    · rename_i tally reserved
      exact (Tally.climbs_of_reserve? reserved).trans (climbs_admitBatch _ _)
    · exact .refl _

theorem climbs_pull (detour : Bool) (items : List FeedItem) (s : Stream) :
    s.tally.Climbs (pull detour items s).tally := by
  fun_induction pull detour items s with
  | case1 s noted => exact .refl _
  | case2 s noted => exact climbs_close _ _
  | case3 item rest s noted asked delayed => exact .refl _
  | case4 item rest s noted asked => exact .refl _
  | case5 item rest s noted prompt direct received again ih =>
    exact Tally.Climbs.trans (climbs_receive { noted with feed := rest } item.batch) ih
  | case6 item rest s noted prompt direct received stays =>
    exact climbs_receive { noted with feed := rest } item.batch

theorem climbs_take (s : Stream) : s.tally.Climbs s.take.tally := by
  unfold take
  split
  · exact climbs_close s false
  · exact climbs_receive _ _
  · split
    · rw [(rings_refuse _ _).tally]
      exact .inl ⟨rfl, rfl⟩
    · exact climbs_admitBatch _ _
  · rename_i slot _
    rw [(rings_close _ _).tally]
    cases slot <;> exact .inl ⟨rfl, rfl⟩
  · exact .refl _

/-- The turn of the producer. -/
theorem climbs_produce (detour : Bool) (s : Stream) : s.tally.Climbs (s.produce detour).tally := by
  simp only [produce]
  split
  · exact (climbs_take s).trans (climbs_pull _ _ _)
  · exact climbs_take s

/-! ## Turns -/

theorem peak_of_act (s : Stream) (turn : Turn) :
    (act consumer launch detour s turn).tally.peak = s.tally.peak ∨
      (act consumer launch detour s turn).tally.peak =
        max s.tally.peak (act consumer launch detour s turn).tally.active := by
  fun_cases act consumer launch detour s turn with
  | case1 => exact .inl (peak_cancel s)
  | case2 => exact .inl rfl
  | case3 => exact (climbs_produce detour s).imp And.right And.right
  | case4 b => exact .inl (peak_start launch s b)
  | case5 b plan => exact .inl (peak_finish s b plan)
  | case6 b plan turns => exact .inl rfl
  | case7 b => exact .inl (congrArg Tally.peak (rings_conclude s).tally)
  | case8 b time => exact .inl rfl
  | case9 => exact .inl (congrArg Tally.peak (rings_gather s).tally)
  | case10 => exact .inl rfl
  | case11 => exact .inl (peak_consume consumer s)

/-- **Whatever comes next, the peak stays or it is kept up with the number of running launches.** -/
theorem peak_of_next? (next : next? consumer launch detour s = some t) :
    t.tally.peak = s.tally.peak ∨ t.tally.peak = max s.tally.peak t.tally.active := by
  unfold next? at next
  split at next
  · contradiction
  · split at next
    · rename_i turn rest ready
      cases next
      exact peak_of_act { s with ready := rest } turn
    · contradiction
    · cases next
      exact .inl rfl
    · cases next
      exact .inl rfl

end Stream

end BatchExec
