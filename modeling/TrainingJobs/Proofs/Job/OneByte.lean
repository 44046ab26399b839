/-
Jobs whose contents are written almost alike. If the texts that are hashed of two contents have the same length and
differ in a single byte, as for one digit of a count or one letter of an image, the content hashes differ for certain,
not only in all likelihood, and neither job passes for the other where its name is taken.

- `hash_ne_of_oneByteApart`: the hashes of the contents;
- `one_byte_makes_another_job`: what comes of it for jobs that are built.
-/
import TrainingJobs.Cluster.Outcome
import TrainingJobs.Proofs.Job.Canonical

namespace TrainingJobs

open Text (utf8 OneByteApart)

theorem Content.hash_ne_of_oneByteApart {c c' : Content} (h : OneByteApart (utf8 c.canonical) (utf8 c'.canonical)) :
    c.hash ≠ c'.hash := by
  rw [Content.hash, Content.hash, Ne, Text.fingerprint_eq_iff]
  exact Text.fnv_ne_of_oneByteApart h

/-- a job of another content hash that holds the name is in the way -/
theorem reconcile_of_ne {s : Submission} {held : String} (h : held ≠ s.contentHash) :
    reconcile s (some held) = .error (.submission s.id (.takenByAnother held s.contentHash)) := if_neg h

/-- **One byte makes another job.** Contents that are hashed of as many bytes, the same but for one place, have
different content hashes of 16 digits each. Of two jobs built with such contents, the one is refused as another job
where the other holds its name, either way round. -/
theorem one_byte_makes_another_job :
    (∀ c c' : Content, OneByteApart (utf8 c.canonical) (utf8 c'.canonical) →
      c.hash ≠ c'.hash ∧ c.hash.length = 16 ∧ c'.hash.length = 16) ∧
    ∀ {d d' : JobDraft} {s s' : Submission}, d.build = .ok s → d'.build = .ok s' →
      OneByteApart (utf8 s.content.canonical) (utf8 s'.content.canonical) →
      reconcile s (some s'.contentHash) = .error (.submission s.id (.takenByAnother s'.contentHash s.contentHash)) ∧
      reconcile s' (some s.contentHash) = .error (.submission s'.id (.takenByAnother s.contentHash s'.contentHash)) := by
  refine ⟨fun c c' h => ?_, ?_⟩
  · exact ⟨Content.hash_ne_of_oneByteApart h, Text.fingerprint_length _, Text.fingerprint_length _⟩
  · intro d d' s s' hs hs' h
    have hne : s.contentHash ≠ s'.contentHash := by
      rw [((d.build_eq_ok_iff s).1 hs).contentHash, ((d'.build_eq_ok_iff s').1 hs').contentHash]
      exact Content.hash_ne_of_oneByteApart h
    exact ⟨reconcile_of_ne (Ne.symm hne), reconcile_of_ne hne⟩

/-- a job of that many workers -/
def crewOf (replicas : UInt32) : JobDraft :=
  .run { name := "train" } [.role workerRole { replicas, image := some "trainer:1.0" }]

/-- the law at a job of two workers and one of three -/
theorem third_worker_makes_another_job : ∃ s s', (crewOf 2).build = .ok s ∧ (crewOf 3).build = .ok s' ∧ s.id = s'.id ∧
    OneByteApart (utf8 s.content.canonical) (utf8 s'.content.canonical) ∧ s.content.hash ≠ s'.content.hash ∧
    reconcile s' (some s.contentHash) = .error (.submission s'.id (.takenByAnother s.contentHash s'.contentHash)) := by
  obtain ⟨s, hs⟩ := eq_ok_of_isSome (show (crewOf 2).build.toOption.isSome = true by decide +kernel)
  obtain ⟨s', hs'⟩ := eq_ok_of_isSome (show (crewOf 3).build.toOption.isSome = true by decide +kernel)
  -- the digit stands behind 31 others
  have hwritten : ((crewOf 2).build.toOption.map fun s =>
        (s.id, s.content.toJson.write[31]?, s.content.toJson.write.set 31 '3')) =
      (crewOf 3).build.toOption.map fun s' => (s'.id, some '2', s'.content.toJson.write) := by decide +kernel
  simp only [hs, hs', Except.toOption, Option.map_some, Option.some.injEq, Prod.mk.injEq] at hwritten
  obtain ⟨hid, hdigit, hset⟩ := hwritten
  have happart : OneByteApart (utf8 s.content.canonical) (utf8 s'.content.canonical) := by
    obtain ⟨hlt, hdigit⟩ := List.getElem?_eq_some_iff.1 hdigit
    have hbytes : ∀ d, utf8 (String.ofList (s.content.toJson.write.set 31 d)) =
        (s.content.toJson.write.take 31).flatMap String.utf8EncodeChar ++
          (String.utf8EncodeChar d ++ (s.content.toJson.write.drop 32).flatMap String.utf8EncodeChar) := by
      intro d
      rw [utf8, String.toList_ofList, List.set_eq_take_append_cons_drop, if_pos hlt, List.flatMap_append,
        List.flatMap_cons]
    have htwo := hbytes '2'
    have hthree := hbytes '3'
    rw [show s.content.toJson.write.set 31 '2' = s.content.toJson.write from hdigit ▸ List.set_getElem_self hlt] at htwo
    rw [hset] at hthree
    exact Text.oneByteApart_iff.2 ⟨_, 50, 51, _, htwo, hthree, by decide⟩
  obtain ⟨hhashes, hjobs⟩ := one_byte_makes_another_job
  exact ⟨s, s', hs, hs', hid, happart, (hhashes _ _ happart).1, (hjobs hs hs' happart).2⟩

end TrainingJobs
