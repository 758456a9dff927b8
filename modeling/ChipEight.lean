import ChipEight.Debugger
import ChipEight.Main
import ChipEight.Proofs.Agenda
import ChipEight.Proofs.Bounds
import ChipEight.Proofs.DeadState
import ChipEight.Proofs.DialectReach
import ChipEight.Proofs.History
import ChipEight.Proofs.KeyWait
import ChipEight.Proofs.Reload
import ChipEight.Proofs.Replay
import ChipEight.Proofs.Resumption
import ChipEight.Proofs.Returns
import ChipEight.Proofs.Slices
import ChipEight.Proofs.Sprites
import ChipEight.Proofs.StepBack
import ChipEight.Proofs.Stops
import ChipEight.Proofs.Tampering
import ChipEight.Refusal
import ChipEight.Proofs.Edits
import ChipEight.Proofs.Requests
import ChipEight.Proofs.Endings
import ChipEight.Proofs.Transfers
import ChipEight.Proofs.HostEvents
import ChipEight.Proofs.Flags
import ChipEight.Proofs.Listings
import ChipEight.Proofs.Accounts
import ChipEight.Proofs.Configurations
import ChipEight.Proofs.Records
import ChipEight.Proofs.IntegerTexts
