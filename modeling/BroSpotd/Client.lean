import BroSpotd.Monitor
import BroSpotd.Replies
import BroSpotd.Serial

/-! What a client finds while records come in. The D-Bus thread answers from the list that the
Broccoli thread is rewriting. A name leads to one lone monitor all the same: fed the serial
order so far, with or without the record that the loop is in the middle of. -/
namespace BroSpotd

variable {S R : Type}

namespace Serial

variable {spot : Spot S} {bro : Broccoli R}

/-- A name leads to the same place in the loop's list and in the serial one. -/
theorem Divided.lookup {record : R} {passed awaiting : List (Node (MonitoredFeature S))}
    {dsp other : Dispotcher S} (divided : Divided spot bro record passed awaiting other.features)
    (split : dsp._features.nodes = passed ++ awaiting) {name : String} {f : MonitoredFeature S}
    (found : other.lookup name = some f) :
    ∃ node, dsp.scan name = some node ∧ (Passed spot bro record node f ∨ Awaits bro record node f) := by
  let key (node : Node (MonitoredFeature S)) : String := node.value._name
  obtain ⟨before,after,parts,had,await⟩ := divided
  have scanned : dsp.scan name = (Keyed.find key name passed).or (Keyed.find key name awaiting) := by
    rw [← Keyed.find_append, ← split]
    rfl
  have looked : (Keyed.find MonitoredFeature._name name before).or
      (Keyed.find MonitoredFeature._name name after) = some f := by
    rw [← Keyed.find_append, ← parts]
    exact found
  rcases Paired.find key MonitoredFeature._name (fun _ _ => Passed.name) had name with
    ⟨unseen,missed⟩ | ⟨node,g,seen,hit,pair⟩
  · rcases Paired.find key MonitoredFeature._name (fun _ _ awaits => awaits.1) await name with
      ⟨_,missed'⟩ | ⟨node,g,seen,hit,pair⟩
    · simp [missed,missed'] at looked
    · obtain rfl : g = f := by simpa [missed,hit] using looked
      exact ⟨node, by simp [scanned,unseen,seen], .inr pair⟩
  · obtain rfl : g = f := by simpa [hit] using looked
    exact ⟨node, by simp [scanned,seen], .inl pair⟩

/-- A feature of the process is the serial one, but for a record that it may have had already. -/
theorem Related.lookup {p : Process S R} {d : Daemon S} (related : Related spot bro p d) {name : String}
    {f : MonitoredFeature S} (found : d.dsp.lookup name = some f) :
    ∃ g, p.dsp.lookup name = some g ∧
      (g._spot = f._spot ∨ ∃ record, p.receiver.loop.pending = some record ∧
        g = observe spot bro record f ∧
        (bro.bro_record_get_named_val record f._name f._bro_type).1.isSome = true) := by
  cases related with
  | rest done same =>
    refine ⟨f, ?_, .inl rfl⟩
    rw [Dispotcher.lookup, same]
    exact found
  | ahead stage split first divided =>
    obtain ⟨node,scanned,pair⟩ := divided.lookup split found
    refine ⟨node.value, by rw [← Dispotcher.scan_value, scanned]; rfl, ?_⟩
    rcases pair with had | awaits
    · exact .inr ⟨_, by rcases stage with h | h <;> rw [h] <;> rfl, had⟩
    · exact .inl awaits.2.1
  | passing stage split last divided =>
    obtain ⟨node,scanned,pair⟩ := divided.lookup split found
    refine ⟨node.value, by rw [← Dispotcher.scan_value, scanned]; rfl, ?_⟩
    rcases pair with had | awaits
    · exact .inr ⟨_, by rw [stage]; rfl, had⟩
    · exact .inl awaits.2.1

end Serial

end BroSpotd
