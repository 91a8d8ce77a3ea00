import PerformancePanel.Library.Runs
import PerformancePanel.Library.WhileLoop
import PerformancePanel.Library.Assoc
import PerformancePanel.Library.WriteThrough
import PerformancePanel.Library.CString
import PerformancePanel.Library.Registers
import PerformancePanel.Library.Resources
import PerformancePanel.Library.Pointers
import PerformancePanel.Library.SharedCell
import PerformancePanel.Source.Common
import PerformancePanel.Source.DataSources
import PerformancePanel.Source.Names
import PerformancePanel.Source.Collector
import PerformancePanel.Source.Tick
import PerformancePanel.Source.DataSourceInterface
import PerformancePanel.Source.JsonLibrary
import PerformancePanel.Source.LinuxReader
import PerformancePanel.Source.LinuxLoad
import PerformancePanel.Source.LinuxProcesses
import PerformancePanel.Settings.StoredReader
import PerformancePanel.Settings.LinuxStored
import PerformancePanel.Guarantees.CapabilityHandshake
import PerformancePanel.Guarantees.LinuxRestart
import PerformancePanel.Guarantees.LinuxDurability
import PerformancePanel.Source.Registry
import PerformancePanel.Source.WindowsReader
import PerformancePanel.Settings.WindowsStored
import PerformancePanel.Guarantees.WindowsRestart
import PerformancePanel.Guarantees.ReaderAgreement
import PerformancePanel.Guarantees.BindingRestored
import PerformancePanel.Guarantees.StartupSafety
import PerformancePanel.Library.OwnedObjects
import PerformancePanel.Source.UmdfDriver
import PerformancePanel.Guarantees.UmdfTimers
import PerformancePanel.Guarantees.UmdfTransfers
import PerformancePanel.Guarantees.TickSampling
import PerformancePanel.Guarantees.CpuUtility
import PerformancePanel.Guarantees.PercentReadings
import PerformancePanel.Guarantees.TickDelivery
import PerformancePanel.Guarantees.DocumentSafety
import PerformancePanel.Guarantees.LoadedChangeable
import PerformancePanel.Guarantees.SetterAtomicity
import PerformancePanel.Guarantees.NameBuffer
import PerformancePanel.Guarantees.AdvertisedBindings
import PerformancePanel.Guarantees.IdleAdjust
import PerformancePanel.Guarantees.VoltmeterProtection
import PerformancePanel.Guarantees.ChannelIndependence
import PerformancePanel.Source.WinUsb
import PerformancePanel.Guarantees.DeviceOpening
import PerformancePanel.Guarantees.AdjustPreview
import PerformancePanel.Guarantees.PreviewLevel
import PerformancePanel.Source.BindingNames
import PerformancePanel.Source.ControlPanelDialog
import PerformancePanel.Guarantees.ShownState
import PerformancePanel.Source.PanelTraffic
import PerformancePanel.Guarantees.PanelLevels
import PerformancePanel.Source.LibUsb
import PerformancePanel.Source.ConsoleMain
import PerformancePanel.Guarantees.ConsoleLife
import PerformancePanel.Settings.ChannelSlots
import PerformancePanel.Guarantees.SwappedPanels
import PerformancePanel.Source.RegistryHives
import PerformancePanel.Guarantees.HiveSeparation
import PerformancePanel.Guarantees.ForeignMembers
import PerformancePanel.Source.ProgramHeap
import PerformancePanel.Guarantees.HeapDiscipline
import PerformancePanel.Source.NvidiaGpu
import PerformancePanel.Source.InstalledDriver
import PerformancePanel.Settings.LoadedEntries
import PerformancePanel.Guarantees.DriverSettings
import PerformancePanel.Guarantees.NvidiaCalls
import PerformancePanel.Guarantees.DriverRefinement
import PerformancePanel.Source.InstalledConsole
import PerformancePanel.Guarantees.ConsoleSettings
import PerformancePanel.Source.SharedConfig
import PerformancePanel.Guarantees.LastSaver
import PerformancePanel.Source.SharedRegistry
import PerformancePanel.Guarantees.SharedChannels
import PerformancePanel.Guarantees.RestartShows
