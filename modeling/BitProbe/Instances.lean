/-!
The instances that are meant.

Where a second library is in scope, there is more than one way to take a
power of a number, to add up a list, to order lists, and to find out whether
one list stands inside another. In every module these are the ways of the
core library, whatever the module imports: the instances are active in the
namespace of the project and come before all others.
-/

namespace BitProbe

attribute [scoped instance (high)] instPowNat
attribute [default_instance high] instPowNat

attribute [scoped instance (high)] Zero.ofOfNat0 One.ofOfNat1

attribute [scoped instance (high)] List.instLE List.decidableLE

attribute [scoped instance (high)] List.instDecidableIsInfixOfDecidableEq

end BitProbe
