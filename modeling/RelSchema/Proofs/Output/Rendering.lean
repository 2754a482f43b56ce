import RelSchema.Output
import RelSchema.Proofs.Schema.Specialization

namespace RelSchema.Output

theorem render_eq_ok {o : Output} {s : Schema} {text : String} (hformat : o.format ≠ .yaml)
    (h : o.render s = .ok text) : script o.format (s.view o.target) = .ok text := by
  rw [render, if_neg hformat] at h
  obtain ⟨t, ht, h⟩ := bind_eq_ok_iff.1 h
  obtain ⟨_, rfl⟩ := Schema.check_eq_ok_iff.1 (mapError_eq_ok_iff.1 ht)
  exact h

end RelSchema.Output
