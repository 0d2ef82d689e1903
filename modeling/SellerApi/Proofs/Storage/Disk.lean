import SellerApi.Storage.Disk

/-! # Files that are created and written

A file that is written holds what was written last, and the other files are as before. Whether a
file can be created depends on the folders only, so that it can be created again.
-/

namespace SellerApi.Disk

variable {d d' : Disk} {path : String}

theorem get?_put (d : Disk) (path : String) (content : Content) :
    (d.put path content).get? path = some content := by
  simp [get?, put]

theorem get?_put_of_ne {other : String} (h : other ≠ path) (content : Content) :
    (d.put path content).get? other = d.get? other := by
  have hfirst : ¬(path = other) := fun he => h he.symm
  simp only [get?, put, List.find?_cons, hfirst, decide_false, List.find?_filter]
  congr 2
  funext f
  by_cases hf : f.1 = other
  · simp [hf, h]
  · simp [hf]

/-- Of two contents only the later one counts. -/
theorem put_put (d : Disk) (path : String) (first later : Content) :
    (d.put path first).put path later = d.put path later := by
  simp [put]

/-- A file that is created is empty. -/
theorem eq_put_of_create (h : d.create path = .ok d') : d' = d.put path (.octets []) := by
  unfold create at h
  split at h
  · contradiction
  split at h
  · contradiction
  split at h
  · exact (Except.ok.inj h).symm
  · contradiction

/-- A file that can be created can still be created behind a write. -/
theorem create_put (h : d.create path = .ok d') (other : String) (content : Content) :
    ∃ d'', (d.put other content).create path = .ok d'' := by
  unfold create at h ⊢
  split at h
  · contradiction
  next hempty =>
  split at h
  · contradiction
  next hfolder =>
  split at h
  · next haround =>
    rw [if_neg hempty, if_neg (by simpa [put] using hfolder), if_pos (by simpa [put] using haround)]
    exact ⟨_, rfl⟩
  · contradiction

end SellerApi.Disk
