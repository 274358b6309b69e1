import LibVmi.Memory
import LibVmi.Events
import LibVmi.Examples.FoolPatchguard.Handler
import LibVmi.Examples.FoolPatchguard.Calls
import LibVmi.Examples.FoolPatchguard.Search
import LibVmi.Examples.FoolPatchguard.Main
import LibVmi.Examples.FoolPatchguard.Prologue
import LibVmi.Examples.FoolPatchguard.Restore
import LibVmi.Examples.FoolPatchguard.EventLoop
import LibVmi.Examples.FoolPatchguard.Bounds
import LibVmi.Examples.FoolPatchguard.Lifecycle
import LibVmi.Driver.Xen.Altp2m
