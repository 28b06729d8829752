/-!
# Lengths of time

A length of time is counted in milliseconds.  It is written in seconds from one second on, in
milliseconds below, and zero as no nanoseconds; the fraction has no zero at its end.
-/

namespace Collocation
namespace Text

/-- A fraction of thousandths after a point, without the zeros at its end. -/
def thousandths (count : Nat) : String :=
  if count = 0 then ""
  else if count % 100 = 0 then s!".{count / 100}"
  else if count % 10 = 0 then s!".{count / 100}{count / 10 % 10}"
  else s!".{count / 100}{count / 10 % 10}{count % 10}"

/-- The text of a length of time in milliseconds. -/
def elapsed (milliseconds : Nat) : String :=
  if milliseconds = 0 then "0ns"
  else if milliseconds < 1000 then s!"{milliseconds}ms"
  else s!"{milliseconds / 1000}{thousandths (milliseconds % 1000)}s"

end Text
end Collocation
