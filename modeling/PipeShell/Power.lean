/-! # Powers

A power of a number is the one of the core library, whatever else is imported beside it. -/

attribute [instance (2000), default_instance 20000] instPowNat
