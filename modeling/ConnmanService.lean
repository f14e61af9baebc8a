import ConnmanService.Variant
import ConnmanService.Service
import ConnmanService.Wfd
import ConnmanService.Config
import ConnmanService.Advance
import ConnmanService.Bss
import ConnmanService.UpdateProperties
import ConnmanService.PropertyChanged
import ConnmanService.Commands
import ConnmanService.System
import ConnmanService.Suppression
import ConnmanService.Permutation
import ConnmanService.ChangeTracking
import ConnmanService.Bookkeeping
import ConnmanService.Routing
import ConnmanService.Callbacks
import ConnmanService.Tokens
import ConnmanService.SnapshotFields
import ConnmanService.Redelivery
