/-
The text that is hashed of a job. It is written in one way only, and no two contents share it: whatever their roles,
commands and environments hold, quotes, commas and brackets among it, the text gives the content back. Jobs of different
contents have one content hash only if the hash itself takes two strings of bytes for one.

- `encodings_tell_contents_apart`: equal bytes are hashed for equal contents only, and equal hashes mean equal contents
  or a collision.
-/
import TrainingJobs.Proofs.Job.Build
import TrainingJobs.Proofs.Job.ReadBack
import TrainingJobs.Proofs.Text.Digest

namespace TrainingJobs.Canonical

/-- different strings of bytes with one hash -/
def Collide (a b : List UInt8) : Prop := a ≠ b ∧ Text.fnv a = Text.fnv b

theorem utf8_canonical_eq_iff (c c' : Content) : Text.utf8 c.canonical = Text.utf8 c'.canonical ↔ c = c' := by
  calc Text.utf8 c.canonical = Text.utf8 c'.canonical
    _ ↔ c.toJson.compact = c'.toJson.compact := Text.utf8_inj _ _
    _ ↔ c.toJson = c'.toJson := Json.compact_inj c.isExact_toJson c'.isExact_toJson
    _ ↔ c = c' := Content.toJson_injective.eq_iff

theorem hash_eq_iff (c c' : Content) :
    c.hash = c'.hash ↔ c = c' ∨ Collide (Text.utf8 c.canonical) (Text.utf8 c'.canonical) := by
  rw [Content.hash, Content.hash, Text.fingerprint_eq_iff, Collide, Ne, utf8_canonical_eq_iff]
  constructor
  · intro h
    by_cases hc : c = c'
    · exact .inl hc
    · exact .inr ⟨hc, h⟩
  · rintro (rfl | ⟨_, h⟩)
    · rfl
    · exact h

/-- **Contents are told apart by what is hashed of them.** The bytes that are hashed of two contents are equal iff the
contents are. Two jobs that are built have one content hash iff they have one content, or the bytes hashed of them are
different and have one hash. -/
theorem encodings_tell_contents_apart :
    (∀ c c' : Content, Text.utf8 c.canonical = Text.utf8 c'.canonical ↔ c = c') ∧
    ∀ {d d' : JobDraft} {s s' : Submission}, d.build = .ok s → d'.build = .ok s' →
      (s.contentHash = s'.contentHash ↔ s.content = s'.content ∨
        Collide (Text.utf8 s.content.canonical) (Text.utf8 s'.content.canonical)) := by
  refine ⟨utf8_canonical_eq_iff, ?_⟩
  intro d d' s s' h h'
  rw [((d.build_eq_ok_iff s).1 h).contentHash, ((d'.build_eq_ok_iff s').1 h').contentHash]
  exact hash_eq_iff s.content s'.content

/-- a job whose workers run that command -/
def running (command : List String) : JobDraft :=
  .run { name := "train" } [.role workerRole { replicas := 2, image := some "trainer:1.0", command }]

/-- the law at a word that holds what would stand between two words -/
theorem word_with_separator_is_no_pair : ∃ s s', (running ["a\",\"b"]).build = .ok s ∧
    (running ["a", "b"]).build = .ok s' ∧ Text.utf8 s.content.canonical ≠ Text.utf8 s'.content.canonical ∧
    (s.contentHash = s'.contentHash →
      Text.fnv (Text.utf8 s.content.canonical) = Text.fnv (Text.utf8 s'.content.canonical)) := by
  have hcontents : (running ["a\",\"b"]).build.toOption.map (·.content) ≠
      (running ["a", "b"]).build.toOption.map (·.content) := by decide +kernel
  obtain ⟨s, hs⟩ := eq_ok_of_isSome (show (running ["a\",\"b"]).build.toOption.isSome = true by decide +kernel)
  obtain ⟨s', hs'⟩ := eq_ok_of_isSome (show (running ["a", "b"]).build.toOption.isSome = true by decide +kernel)
  have hcontent : s.content ≠ s'.content := by
    rw [hs, hs'] at hcontents
    exact fun h => hcontents (congrArg some h)
  obtain ⟨hbytes, hhash⟩ := encodings_tell_contents_apart
  refine ⟨s, s', hs, hs', fun h => hcontent ((hbytes _ _).1 h), fun h => ?_⟩
  exact (((hhash hs hs').1 h).resolve_left hcontent).2

end TrainingJobs.Canonical
