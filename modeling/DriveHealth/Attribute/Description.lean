/-
# What the attributes mean

The well-known attributes by number, with one sentence on what each counts or measures.

Key definitions: `Attribute.descriptions`, `Attribute.describe`.
-/
import DriveHealth.Attribute.Basic

namespace DriveHealth.Attribute

/-- The meaning of each well-known attribute, in the order of their numbers. -/
def descriptions : List (Nat × String) :=
  [
    (1, "Frequency of errors while reading raw data from the disk. A non-zero value indicates a problem "
      ++ "with either the disk surface or read/write heads."),
    (2, "Average efficiency of the hard disk."),
    (3, "Average time (in milliseconds) for the disk spindle to spin up from zero RPM to fully "
      ++ "operational."),
    (4, "Number of spindle start/stop cycles."),
    (5, "Count of reallocated sectors. When a read or write operation fails, the sector is reallocated "
      ++ "to a spare area."),
    (6, "Margin of a channel while reading data."),
    (7, "Frequency of errors while positioning."),
    (8, "Average efficiency of operations while positioning."),
    (9, "Number of hours elapsed in the power-on state."),
    (10, "Number of retry attempts to spin up."),
    (11, "Number of attempts to calibrate the device."),
    (12, "Number of power-on events."),
    (13, "Frequency of errors while reading from the disk."),
    (170, "Number of reserved blocks available for bad block remapping."),
    (171, "Number of flash program operation failures."),
    (172, "Number of flash erase operation failures."),
    (173, "Wear levelling count across all flash blocks."),
    (174, "Number of unexpected power loss events."),
    (175, "Number of program failures (worst die)."),
    (177, "Maximum number of erase operations performed on a single flash block."),
    (179, "Number of reserved blocks used for remapping."),
    (180, "Number of reserved blocks not yet used for remapping."),
    (181, "Number of flash program failures since the drive was deployed."),
    (182, "Number of flash erase failures since the drive was deployed."),
    (183, "Number of errors while downshifting the SATA link speed."),
    (184, "Count of parity errors in the data path to the media via the drive's cache RAM."),
    (187, "Number of errors that could not be recovered using hardware ECC."),
    (188, "Number of aborted operations due to hard disk timeout."),
    (189, "Number of times a recording head flew outside its normal operating range."),
    (190, "Airflow temperature of the drive."),
    (191, "Frequency of mistakes as a result of impact loads."),
    (192, "Number of power-off or emergency retract cycles."),
    (193, "Number of cycles into the landing zone position."),
    (194, "Current internal temperature of the drive."),
    (195, "Number of ECC on-the-fly errors."),
    (196, "Number of remapping operations. The raw value shows the total number of attempts to transfer "
      ++ "data from reallocated sectors to a spare area."),
    (197, "Number of unstable sectors waiting to be remapped. If the unstable sector is subsequently "
      ++ "read successfully, this value is decreased and the sector is not remapped."),
    (198, "Number of uncorrectable errors when reading/writing a sector. A rise in the value indicates "
      ++ "defects of the disk surface and/or problems in the mechanical subsystem."),
    (199, "Number of CRC errors during UDMA mode transfers."),
    (200, "Number of errors found when writing a sector. The higher the value, the worse the disk's "
      ++ "mechanical condition is."),
    (201, "Number of off-track errors."),
    (202, "Number of data address mark errors."),
    (203, "Number of ECC errors."),
    (204, "Number of errors corrected by software ECC."),
    (205, "Number of errors due to high temperature."),
    (206, "Height of heads above the disk surface."),
    (207, "Amount of high current used to spin up the drive."),
    (208, "Number of buzz routines to spin up the drive."),
    (209, "Drive's seek performance during offline operations."),
    (220, "Shift of disks towards spindle."),
    (221, "Number of errors as a result of impact loads as detected by a shock sensor."),
    (222, "Number of hours in general operational state."),
    (223, "Number of times head changes position."),
    (224, "Load on drive caused by friction in mechanical parts of the store."),
    (225, "Total number of load cycles."),
    (226, "General time for loading in a drive."),
    (227, "Quantity efforts of the rotating moment of a drive."),
    (228, "Number of power-off retract events."),
    (230, "Amplitude of heads trembling (GMR-head) in running mode."),
    (231, "Temperature of the drive."),
    (232, "Endurance remaining: number of physical erase cycles completed as a percentage of the "
      ++ "maximum."),
    (233, "Number of hours elapsed in the power-on state, or the media wearout indicator on SSDs."),
    (240, "Time spent during the positioning of the drive heads."),
    (241, "Total number of LBAs written."),
    (242, "Total number of LBAs read."),
    (250, "Number of errors while reading from a disk."),
    (251, "Number of remaining spare blocks as a percentage of the total number of spare blocks "
      ++ "available."),
    (252, "Total number of bad flash blocks the drive detected since it was first initialized in "
      ++ "manufacturing."),
    (254, "Number of free fall events detected.")
  ]

/-- The meaning of attribute `id`, empty when it is not well known. -/
def describe (id : Nat) : String := (descriptions.lookup id).getD ""

end DriveHealth.Attribute
