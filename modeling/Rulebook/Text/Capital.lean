import Rulebook.Text.Fold

/-!
# Capitals

Most small letters are the small letter of one capital, which is then theirs as well. The table
lists the others: letters that share the capital of another one, letters between the cases, and
letters without a single capital, such as ligatures, of whose capitals the first counts.
-/

namespace Rulebook.Text

/-- Runs of characters, and the capital of the first of each, where it is not the capital that has
the character for its small letter. -/
def furtherCapitals : List CapitalRun :=
  [⟨0xb5, 0xb5, 1, 0x39c⟩, ⟨0xdf, 0xdf, 1, 0x53⟩, ⟨0x131, 0x131, 1, 0x49⟩, ⟨0x149, 0x149, 1, 0x2bc⟩,
   ⟨0x17f, 0x17f, 1, 0x53⟩, ⟨0x1c5, 0x1c5, 1, 0x1c4⟩, ⟨0x1c8, 0x1c8, 1, 0x1c7⟩,
   ⟨0x1cb, 0x1cb, 1, 0x1ca⟩, ⟨0x1f0, 0x1f0, 1, 0x4a⟩, ⟨0x1f2, 0x1f2, 1, 0x1f1⟩,
   ⟨0x345, 0x345, 1, 0x399⟩, ⟨0x390, 0x390, 1, 0x399⟩, ⟨0x3b0, 0x3b0, 1, 0x3a5⟩,
   ⟨0x3c2, 0x3c2, 1, 0x3a3⟩, ⟨0x3d0, 0x3d0, 1, 0x392⟩, ⟨0x3d1, 0x3d1, 1, 0x398⟩,
   ⟨0x3d5, 0x3d5, 1, 0x3a6⟩, ⟨0x3d6, 0x3d6, 1, 0x3a0⟩, ⟨0x3f0, 0x3f0, 1, 0x39a⟩,
   ⟨0x3f1, 0x3f1, 1, 0x3a1⟩, ⟨0x3f5, 0x3f5, 1, 0x395⟩, ⟨0x587, 0x587, 1, 0x535⟩,
   ⟨0x1c80, 0x1c80, 1, 0x412⟩, ⟨0x1c81, 0x1c81, 1, 0x414⟩, ⟨0x1c82, 0x1c82, 1, 0x41e⟩,
   ⟨0x1c83, 0x1c84, 1, 0x421⟩, ⟨0x1c85, 0x1c85, 1, 0x422⟩, ⟨0x1c86, 0x1c86, 1, 0x42a⟩,
   ⟨0x1c87, 0x1c87, 1, 0x462⟩, ⟨0x1c88, 0x1c88, 1, 0xa64a⟩, ⟨0x1e96, 0x1e96, 1, 0x48⟩,
   ⟨0x1e97, 0x1e97, 1, 0x54⟩, ⟨0x1e98, 0x1e98, 1, 0x57⟩, ⟨0x1e99, 0x1e99, 1, 0x59⟩,
   ⟨0x1e9a, 0x1e9a, 1, 0x41⟩, ⟨0x1e9b, 0x1e9b, 1, 0x1e60⟩, ⟨0x1f50, 0x1f50, 1, 0x3a5⟩,
   ⟨0x1f52, 0x1f52, 1, 0x3a5⟩, ⟨0x1f54, 0x1f54, 1, 0x3a5⟩, ⟨0x1f56, 0x1f56, 1, 0x3a5⟩,
   ⟨0x1f80, 0x1f87, 1, 0x1f08⟩, ⟨0x1f88, 0x1f8f, 1, 0x1f08⟩, ⟨0x1f90, 0x1f97, 1, 0x1f28⟩,
   ⟨0x1f98, 0x1f9f, 1, 0x1f28⟩, ⟨0x1fa0, 0x1fa7, 1, 0x1f68⟩, ⟨0x1fa8, 0x1faf, 1, 0x1f68⟩,
   ⟨0x1fb2, 0x1fb2, 1, 0x1fba⟩, ⟨0x1fb3, 0x1fb3, 1, 0x391⟩, ⟨0x1fb4, 0x1fb4, 1, 0x386⟩,
   ⟨0x1fb6, 0x1fb6, 1, 0x391⟩, ⟨0x1fb7, 0x1fb7, 1, 0x391⟩, ⟨0x1fbc, 0x1fbc, 1, 0x391⟩,
   ⟨0x1fbe, 0x1fbe, 1, 0x399⟩, ⟨0x1fc2, 0x1fc2, 1, 0x1fca⟩, ⟨0x1fc3, 0x1fc3, 1, 0x397⟩,
   ⟨0x1fc4, 0x1fc4, 1, 0x389⟩, ⟨0x1fc6, 0x1fc6, 1, 0x397⟩, ⟨0x1fc7, 0x1fc7, 1, 0x397⟩,
   ⟨0x1fcc, 0x1fcc, 1, 0x397⟩, ⟨0x1fd2, 0x1fd2, 1, 0x399⟩, ⟨0x1fd3, 0x1fd3, 1, 0x399⟩,
   ⟨0x1fd6, 0x1fd6, 1, 0x399⟩, ⟨0x1fd7, 0x1fd7, 1, 0x399⟩, ⟨0x1fe2, 0x1fe2, 1, 0x3a5⟩,
   ⟨0x1fe3, 0x1fe3, 1, 0x3a5⟩, ⟨0x1fe4, 0x1fe4, 1, 0x3a1⟩, ⟨0x1fe6, 0x1fe6, 1, 0x3a5⟩,
   ⟨0x1fe7, 0x1fe7, 1, 0x3a5⟩, ⟨0x1ff2, 0x1ff2, 1, 0x1ffa⟩, ⟨0x1ff3, 0x1ff3, 1, 0x3a9⟩,
   ⟨0x1ff4, 0x1ff4, 1, 0x38f⟩, ⟨0x1ff6, 0x1ff6, 1, 0x3a9⟩, ⟨0x1ff7, 0x1ff7, 1, 0x3a9⟩,
   ⟨0x1ffc, 0x1ffc, 1, 0x3a9⟩, ⟨0xfb00, 0xfb00, 1, 0x46⟩, ⟨0xfb01, 0xfb01, 1, 0x46⟩,
   ⟨0xfb02, 0xfb02, 1, 0x46⟩, ⟨0xfb03, 0xfb03, 1, 0x46⟩, ⟨0xfb04, 0xfb04, 1, 0x46⟩,
   ⟨0xfb05, 0xfb05, 1, 0x53⟩, ⟨0xfb06, 0xfb06, 1, 0x53⟩, ⟨0xfb13, 0xfb13, 1, 0x544⟩,
   ⟨0xfb14, 0xfb14, 1, 0x544⟩, ⟨0xfb15, 0xfb15, 1, 0x544⟩, ⟨0xfb16, 0xfb16, 1, 0x54e⟩,
   ⟨0xfb17, 0xfb17, 1, 0x544⟩]

/-- The first capital of a character; a character without one is its own. -/
def capital (c : Char) : Char :=
  match furtherCapitals.find? (·.holds c.toNat) with
  | some run => Char.ofNat (run.target + (c.toNat - run.first))
  | none => (capitalsOf c).headD c

end Rulebook.Text
